import Runbook.Program.Options
import Runbook.Program.Printf

/-!
# Progressions

Rows of numbers in equal steps. The numbers are exact fractions, so that a row ends where it should.
-/

namespace Runbook.Program

namespace Tool

/-- A number of a row, with the number of places that it is written with. -/
structure Bound where
  value : Numeral.Real
  places : Nat

/-- Read a number of a row. -/
def readBound? (text : String) : Option Bound := do
  let (value, rest) ← Numeral.readReal? text.toList
  let chars := text.toList.map Char.toLower
  let behindPoint := (chars.dropWhile (· != '.')).drop 1
  let written := (behindPoint.takeWhile (· != 'e')).length
  let exponent := (Numeral.readExponent 'e' 'E' (chars.dropWhile (· != 'e'))).1
  if rest.isEmpty then
    return ⟨value, if chars.contains 'x' then 0 else ((written : Int) - exponent).toNat⟩
  else none

/-- A finite number as a count of parts of one. -/
def Bound.count? (parts : Nat) (bound : Bound) : Option Int :=
  match bound.value with
  | .finite negative x =>
    let count : Int := x.numerator * (parts / x.denominator)
    some (if negative then -count else count)
  | _ => none

/-- The parts that a number is a multiple of. -/
def Bound.parts (bound : Bound) : Nat :=
  match bound.value with
  | .finite _ x => x.denominator
  | _ => 1

/-- The numbers from one to another in steps. -/
def countFrom (step last : Int) : (fuel : Nat) → Int → List Int
  | 0, _ => []
  | fuel + 1, n =>
    if (0 < step ∧ last < n) ∨ (step < 0 ∧ n < last) ∨ step = 0 then []
    else n :: countFrom step last fuel (n + step)

/-- A format of the numbers of a row: what stands around the only conversion, and that. -/
structure RowFormat where
  front : List Char
  conversion : Printf.Conversion
  back : List Char
deriving Inhabited

/-- Why a text is no format for the numbers of a row. -/
inductive RowFormatFault where
  | noDirective
  | endsInPercent
  | unknown (c : Char)
  | tooMany
deriving DecidableEq, Repr, Inhabited

/-- The wording of a fault of a format. -/
def RowFormatFault.message (format : String) (fault : RowFormatFault) : String :=
  "format " ++ Mention.marked format ++ " " ++ match fault with
    | .noDirective => "has no % directive"
    | .endsInPercent => "ends in %"
    | .unknown c => "has unknown %" ++ String.ofList [c] ++ " directive"
    | .tooMany => "has too many % directives"

/-- The text up to a single percent sign, and what stands behind that, if there is one. Two percent
signs stand for one. -/
def spanPercent : List Char → List Char × Option (List Char)
  | [] => ([], none)
  | '%' :: '%' :: rest =>
    let (front, behind?) := spanPercent rest
    ('%' :: front, behind?)
  | '%' :: rest => ([], some rest)
  | c :: rest =>
    let (front, behind?) := spanPercent rest
    (c :: front, behind?)

/-- Read a format for the numbers of a row. -/
def RowFormat.read (format : String) : Except RowFormatFault RowFormat :=
  match spanPercent format.toList with
  | (_, none) => .error .noDirective
  | (front, some chars) =>
    let flags := chars.takeWhile "-+#0 '".toList.contains
    let rest := chars.drop flags.length
    let width := rest.takeWhile Char.isDigit
    let rest := rest.drop width.length
    let precision := match rest with
      | '.' :: digits => '.' :: digits.takeWhile Char.isDigit
      | _ => []
    let rest := rest.drop precision.length
    let rest := if rest.head? = some 'L' then rest.tail else rest
    match rest with
    | [] => .error .endsInPercent
    | kind :: back =>
      if !Printf.realKinds.contains kind then .error (.unknown kind)
      else
        match spanPercent back with
        | (_, some _) => .error .tooMany
        | (back, none) =>
          let text := flags.filter (· != '\'') ++ width ++ precision ++ [kind]
          match Printf.readConversion Printf.shellStyle text [] with
          | .ok opened => .ok ⟨front, opened.conversion, back⟩
          | .error _ => .error (.unknown kind)

/-- How a row of numbers is written. -/
structure RowStyle where
  separator : String
  /-- Zeros fill up the numbers to the same width. -/
  equalWidth : Bool
  format? : Option RowFormat

/-- A number of a row in text form. -/
def RowStyle.text (style : RowStyle) (places width parts : Nat) (n : Int) : List UInt8 :=
  let x : Decimal.Fraction := ⟨n.natAbs, parts⟩
  match style.format? with
  | some format =>
    format.front.map Text.Octets.byte
      ++ Printf.writeReal Printf.programStyle format.conversion (.finite (decide (n < 0)) x)
      ++ format.back.map Text.Octets.byte
  | none =>
    let sign := if n < 0 then "-" else ""
    let digits := x.fixedText false places
    Text.Octets.toBytes (sign ++ Decimal.zeros (width - (sign ++ digits).length) ++ digits)

/-- How many numbers of a row without an end are written. -/
def endlessCount : Nat := 50000

/-- Write a row of numbers. A row without an end never ends. -/
def writeRow (style : RowStyle) (first step last : Bound) : Run :=
  let parts := first.parts * step.parts * last.parts
  let places := max first.places step.places
  let write (width : Nat) (numbers : List Int) : List UInt8 :=
    if numbers.isEmpty then []
    else
      (Text.Octets.toBytes style.separator).intercalate
        (numbers.map (style.text places width parts)) ++ [10]
  match first.count? parts, step.count? parts, last.count? parts with
  | some start, some advance, some finish =>
    let plain : RowStyle := { style with format? := none }
    let length (n : Int) : Nat := (plain.text places 0 parts n).length
    let width := if style.equalWidth then max (length start) (length finish) else 0
    succeed (write width
      (countFrom advance finish ((finish - start).natAbs / max advance.natAbs 1 + 1) start))
  | some start, some advance, none =>
    let climbs := decide (0 < advance)
    match last.value with
    | .infinite falls =>
      if climbs == falls then succeed []
      else
        let numbers := (List.range endlessCount).map fun n : Nat => start + n * advance
        { succeed (write 0 numbers) with milliseconds := none }
    | _ => succeed []
  | none, _, _ => succeed []
  | _, _, _ => { succeed [] with milliseconds := none }

/-- Whether an argument is an operand: also a number with a sign. -/
def isRowOperand (argument : String) : Bool :=
  match argument.toList with
  | '-' :: c :: _ => c.isDigit || c == '.'
  | _ => true

/-- Write a row of numbers from one to another. -/
def seq : Tool := fun arguments supply =>
  let rules : OptionRules := ⟨1, "f|format: s|separator: w|equal-width", isRowOperand⟩
  withOptionsBy rules supply.name arguments fun options =>
    let isNumber (text : String) : Bool := match readBound? text with
      | some ⟨.notANumber _, _⟩ | none => false
      | some _ => true
    let operands := options.operands
    let format? := (options.value? "f").map fun text => (text, RowFormat.read text)
    match operands, format? with
    | [], _ => refuse supply.name "missing operand"
    | _ :: _ :: _ :: extra :: _, _ => refuse supply.name (extraOperand extra)
    | _, some (text, .error fault) => fail 1 [] [supply.name ++ ": " ++ fault.message text]
    | _, _ =>
      if format?.isSome && options.has "w" then
        refuse supply.name
          "format string may not be specified when printing equal width strings"
      else
        let format? := format?.bind fun (_, format) => format.toOption
        let row := writeRow ⟨(options.value? "s").getD "\n", options.has "w", format?⟩
        match operands.find? (!isNumber ·) with
        | some text =>
          let kind := if (readBound? text).isSome then "invalid 'not-a-number' argument"
            else "invalid floating point argument"
          refuse supply.name (kind ++ ": " ++ Mention.marked text)
        | none =>
          let one : Bound := ⟨.finite false ⟨1, 1⟩, 0⟩
          match operands.filterMap readBound? with
          | [last] => row one one last
          | [first, last] => row first one last
          | [first, step, last] =>
            if step.count? step.parts = some 0 then
              refuse supply.name
                ("invalid Zero increment value: " ++ Mention.marked (operands.getD 1 ""))
            else row first step last
          | _ => refuse supply.name "missing operand"

end Tool

end Runbook.Program
