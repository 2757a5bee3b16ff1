import TemplateWorkbench.Number.Integer
import TemplateWorkbench.Text.Quoted

/-!
# UTF-8

Octets are read one character at a time.  The first octet of a character tells how many others are
owed and between which bounds the next of them has to lie, which rules out overlong forms, surrogates
and codes beyond the last one.  A fault tells the octets that it is about: a first octet that begins
no character, those before an octet that should go on but does not, or all that are left when the
text ends too early.
-/

namespace TemplateWorkbench.Text.Utf8

/-- Why octets are no character. -/
inductive FaultReason where
  | badStart
  | badContinuation
  | cutShort
deriving DecidableEq, Repr

/-- The words for a reason. -/
def FaultReason.text : FaultReason → String
  | badStart => "invalid start byte"
  | badContinuation => "invalid continuation byte"
  | cutShort => "unexpected end of data"

/-- A fault: its reason, the offset of its first octet, and its octets. -/
structure Fault where
  reason : FaultReason
  offset : Nat
  octets : List UInt8
deriving DecidableEq, Repr

/-- What is said of a fault. -/
def Fault.message (fault : Fault) : String :=
  let place :=
    match fault.octets with
    | [octet] =>
      s!"byte 0x{String.ofList (hexDigits 2 octet.toNat)} in position {fault.offset}"
    | octets => s!"bytes in position {fault.offset}-{fault.offset + octets.length - 1}"
  s!"'utf-8' codec can't decode {place}: {fault.reason.text}"

/-- What a first octet announces: the bits that it gives, how many octets are owed, and the bounds
of the next one. -/
structure Lead where
  bits : Nat
  owed : Nat
  least : Nat
  greatest : Nat

/-- What a first octet announces, if it can begin a character. -/
def lead? (octet : UInt8) : Option Lead :=
  let code := octet.toNat
  if code < 0x80 then some ⟨code, 0, 0x80, 0xBF⟩
  else if code < 0xC2 then none
  else if code < 0xE0 then some ⟨code - 0xC0, 1, 0x80, 0xBF⟩
  else if code == 0xE0 then some ⟨0, 2, 0xA0, 0xBF⟩
  else if code == 0xED then some ⟨0xD, 2, 0x80, 0x9F⟩
  else if code < 0xF0 then some ⟨code - 0xE0, 2, 0x80, 0xBF⟩
  else if code == 0xF0 then some ⟨0, 3, 0x90, 0xBF⟩
  else if code < 0xF4 then some ⟨code - 0xF0, 3, 0x80, 0xBF⟩
  else if code == 0xF4 then some ⟨4, 3, 0x80, 0x8F⟩
  else none

/-- The code of a character from the bits so far and the octets owed; a fault tells its reason and
how many of the octets belong to it. -/
def gather (bits least greatest : Nat) :
    Nat → List UInt8 → Except (FaultReason × Nat) Nat
  | 0, _ => .ok bits
  | _ + 1, [] => .error (.cutShort, 0)
  | owed + 1, octet :: rest =>
    if least ≤ octet.toNat && octet.toNat ≤ greatest then
      match gather (bits * 64 + (octet.toNat - 0x80)) 0x80 0xBF owed rest with
      | .ok code => .ok code
      | .error (reason, count) => .error (reason, count + 1)
    else .error (.badContinuation, 0)

/-- The first character of octets that begin with `octet`, and how many octets follow the first in
it; or the reason why there is none, and how many octets follow the first in the fault. -/
def first (octet : UInt8) (rest : List UInt8) : Except (FaultReason × Nat) (Char × Nat) :=
  match lead? octet with
  | none => .error (.badStart, 0)
  | some lead =>
    match gather lead.bits lead.least lead.greatest lead.owed rest with
    | .ok code => .ok (Char.ofNat code, lead.owed)
    | .error fault => .error fault

/-- The characters of octets that begin at an offset. -/
def decodeFrom (offset : Nat) : List UInt8 → Except Fault (List Char)
  | [] => .ok []
  | octet :: rest =>
    match first octet rest with
    | .error (reason, count) => .error ⟨reason, offset, octet :: rest.take count⟩
    | .ok (c, count) => (decodeFrom (offset + count + 1) (rest.drop count)).map (c :: ·)
termination_by octets => octets.length
decreasing_by simp only [List.length_cons, List.length_drop]; omega

/-- The characters of octets. -/
def decode (octets : List UInt8) : Except Fault (List Char) := decodeFrom 0 octets

/-- The characters of octets, those that are none being written by their codes. -/
def decodeVisibly : List UInt8 → List Char
  | [] => []
  | octet :: rest =>
    match first octet rest with
    | .error (_, count) =>
      (octet :: rest.take count).flatMap (fun o => '\\' :: 'x' :: hexDigits 2 o.toNat) ++
        decodeVisibly (rest.drop count)
    | .ok (c, count) => c :: decodeVisibly (rest.drop count)
termination_by octets => octets.length
decreasing_by all_goals (simp only [List.length_cons, List.length_drop]; omega)

/-- The octets of characters. -/
def encode (text : List Char) : List UInt8 := text.flatMap String.utf8EncodeChar

end TemplateWorkbench.Text.Utf8
