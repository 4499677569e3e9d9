import Runbook.Json.Printer
import Runbook.Json.Reader
import Runbook.Text.Blank

/-!
# Outputs of tasks

What a successful attempt leaves behind, and the value that later tasks see of it.
-/

namespace Runbook

/-- What an attempt captured. -/
structure Output where
  /-- The body of the response, or what the program printed. -/
  body : String
  statusCode : Option UInt16
  headers : Dictionary String
  exitCode : Option Int
deriving DecidableEq, Repr, Inhabited

namespace Output

/-- Whether a character ends a line. -/
def isLineEnd (c : Char) : Bool := c == '\n' || c == '\r'

/-- A text without the line ends behind it. -/
def withoutLineEnds (text : String) : String :=
  String.ofList (Text.dropEndWhile isLineEnd text.toList)

/-- The value of a body. JSON objects and arrays are read, so that paths can lead into them, and
all else is text without its line ends. -/
def decodeBody (body : String) : Json :=
  match Json.ofChars (Text.trimChars body.toList) with
  | some value =>
    if JsonTree.isContainer value then value else .string (withoutLineEnds body)
  | none => .string (withoutLineEnds body)

/-- The value that is published under the name of the task. -/
def published (output : Output) : Json :=
  let response := match output.statusCode with
    | none => []
    | some status =>
      [("statusCode", .number (.int status.toNat)),
        ("headers", .object (output.headers.map fun (name, value) => (name, .string value)))]
  let exit := match output.exitCode with
    | none => []
    | some code => [("exitCode", .number (.int code))]
  .object (Dictionary.ofList (("output", decodeBody output.body) :: (response ++ exit)))

end Output

end Runbook
