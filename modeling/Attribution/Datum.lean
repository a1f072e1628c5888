import Attribution.Binary64.Shortest
import Attribution.Text.Quoted
import Attribution.Text.Utf8

/-!
# Loosely typed arguments

Callers such as a configuration reader hand over values whose type is known only at run time. The
operations that take them check them.

- `Datum`: such a value.
- `Misuse`: what is wrong with a value of the wrong kind.
- `Datum.toInt`, `Datum.toBytes`: conversions, or what rules them out.
- `Datum.shown?`: the value as it stands in a message.
-/

namespace Attribution

/-- A value whose type is known only at run time. -/
inductive Datum
  | null
  | bool (b : Bool)
  | int (n : Int)
  | float (x : Binary64)
  | text (t : Text)
  | bytes (b : Bytes)
  | list (items : List Datum)
  | dict (keys : List Text) (values : List Datum)

/-- Why a value cannot be used, apart from the conditions of the domain. -/
inductive Misuse
  | wrongType
  | invalidValue
  | overflow
  | unsupported
  | missingKey
  | undecodable
  | outOfMemory
deriving DecidableEq

namespace Datum

/-- The name of a value's type. -/
def typeName : Datum → Text
  | null => "NoneType".toList
  | bool _ => "bool".toList
  | int _ => "int".toList
  | float _ => "float".toList
  | text _ => "str".toList
  | bytes _ => "bytes".toList
  | list _ => "list".toList
  | dict .. => "dict".toList

/-- A field that may be absent. -/
def ofText? : Option Text → Datum
  | none => null
  | some t => text t

/-- Whether a value is present: neither null nor false, zero or empty. -/
def isPresent : Datum → Bool
  | null => false
  | bool b => b
  | int n => n != 0
  | float (.finite _ significand _) => significand != 0
  | float _ => true
  | text t => !t.isEmpty
  | bytes b => !b.isEmpty
  | list items => !items.isEmpty
  | dict keys _ => !keys.isEmpty

/-! ## Conversions -/

/-- The integer that a value stands for: a number loses its fraction, a numeral is read. -/
def toInt : Datum → Except Misuse Int
  | bool b => .ok b.toNat
  | int n => .ok n
  | float x =>
    match x.truncate? with
    | some n => .ok n
    | none => .error (if x = .notANumber then .invalidValue else .overflow)
  | text t => (Numeral.read? t).elim (.error .invalidValue) .ok
  | bytes b => (Numeral.readBytes? b).elim (.error .invalidValue) .ok
  | _ => .error .wrongType

/-- The byte that an item of a list stands for. -/
def toByte : Datum → Except Misuse UInt8
  | bool b => .ok b.toNat.toUInt8
  | int n => if 0 ≤ n ∧ n < 256 then .ok n.toNat.toUInt8 else .error .invalidValue
  | _ => .error .wrongType

/-- The end of the range of signed numbers of 64 bits. -/
def wordLimit : Int := 0x8000000000000000

/-- The end of the range of signed numbers of 32 bits. -/
def halfWordLimit : Int := 0x80000000

/-- The end of the range of sizes that a byte string can have by its layout. -/
def sizeLimit : Int := wordLimit - 33

/-- The end of the range of sizes for which there is memory. -/
def memoryLimit : Int := 0x10000000000

/-- As many zero bytes as a number says. -/
def zeros (n : Int) : Except Misuse Bytes :=
  if n < -wordLimit ∨ sizeLimit ≤ n then .error .overflow
  else if n < 0 then .error .invalidValue
  else if memoryLimit ≤ n then .error .outOfMemory
  else .ok (List.replicate n.toNat 0)

/-- The bytes that a value stands for: a number gives that many zeros, a list its items. -/
def toBytes : Datum → Except Misuse Bytes
  | bytes b => .ok b
  | bool b => zeros b.toNat
  | int n => zeros n
  | list items => items.mapM toByte
  | dict [] _ => .ok []
  | _ => .error .wrongType

/-! ## Showing -/

/-- A key of a dictionary with its value, which is shown already. -/
def quotedEntry (key value : Text) : Text := key.quoted ++ ": ".toList ++ value

mutual

/-- A value as it stands inside a list, unless it holds a number of too many digits. -/
def quoted? : Datum → Option Text
  | null => some "None".toList
  | bool b => some (if b then "True" else "False").toList
  | int n => Numeral.write? n
  | text t => some t.quoted
  | bytes b => some b.quoted
  | float x => some x.write
  | list items => (quotedItems? items).map fun ts => '[' :: Text.join ", ".toList ts ++ [']']
  | dict keys values =>
    (quotedItems? values).map fun ts =>
      '\x7b' :: Text.join ", ".toList (keys.zipWith quotedEntry ts) ++ ['\x7d']

/-- The items of a list as they stand in it. -/
def quotedItems? : List Datum → Option (List Text)
  | [] => some []
  | d :: ds => do return (← quoted? d) :: (← quotedItems? ds)

end

/-- A value as it stands in a message: text is shown as it is. -/
def shown? : Datum → Option Text
  | text t => some t
  | d => d.quoted?

/-- A value as it stands in a message, in which numbers must not have too many digits. -/
def shown (d : Datum) : Except Misuse Text := d.shown?.elim (.error .invalidValue) .ok

end Datum

end Attribution
