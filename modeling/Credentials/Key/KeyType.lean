import Credentials.Text.Digits

/-!
# Key types

The four kinds of keys, their ordinals on the wire, which must never change,
their names, and whether a key of the kind has a record in the key store.
-/

namespace Credentials

/-- The kind of a key. -/
inductive KeyType where
  /-- A short-lived login key. -/
  | access
  /-- The companion of a login key, exchanged for a new one. -/
  | refresh
  /-- A key for setting a new password. -/
  | recovery
  /-- A long-lived key that acts on behalf of a subject. -/
  | api
deriving DecidableEq

/-- Whether keys of a kind have a record in the key store. -/
inductive Persistence where
  /-- A key is what its signed claims say. It cannot be revoked. -/
  | stateless
  /-- A key counts only as long as its record is in the store. -/
  | persisted
deriving DecidableEq

namespace KeyType

/-- Whether keys of this kind have a record in the key store. -/
def persistence : KeyType → Persistence
  | access | refresh => .stateless
  | recovery | api => .persisted

/-- The number of a kind on the wire. -/
def ordinal : KeyType → Nat
  | access => 0
  | refresh => 1
  | recovery => 2
  | api => 3

/-- The kind with a number on the wire. -/
def ofOrdinal? : Nat → Option KeyType
  | 0 => some access
  | 1 => some refresh
  | 2 => some recovery
  | 3 => some api
  | _ => none

/-- The name of a kind. -/
def name : KeyType → String
  | access => "access"
  | refresh => "refresh"
  | recovery => "recovery"
  | api => "API"

/-- The kind with a name, in letters of any case. Only the letters from A to Z
have to be looked at: the one character beyond them whose lower case is such a
letter is the Kelvin sign, and no name has a k. -/
def ofName? (text : String) : Option KeyType :=
  match String.ofList (text.toList.map Char.toLower) with
  | "access" => some access
  | "refresh" => some refresh
  | "recovery" => some recovery
  | "api" => some api
  | _ => none

/-- Why a number or a name is no kind. -/
inductive Error where
  | unknownOrdinal (ordinal : Nat)
  | unknownName (name : String)
deriving DecidableEq

/-- The error in words. -/
def Error.message : Error → String
  | unknownOrdinal n => "unknown key type ordinal: " ++ String.ofList (Text.digits n)
  | unknownName s => "invalid key type: " ++ s

/-- The kind with a number on the wire, or why there is none. -/
def ofOrdinal (n : Nat) : Except Error KeyType :=
  match ofOrdinal? n with
  | some t => .ok t
  | none => .error (.unknownOrdinal n)

/-- The kind with a name, or why there is none. -/
def ofName (text : String) : Except Error KeyType :=
  match ofName? text with
  | some t => .ok t
  | none => .error (.unknownName text)

@[simp] theorem ofOrdinal?_ordinal (t : KeyType) : ofOrdinal? t.ordinal = some t := by
  cases t <;> rfl

theorem ordinal_of_ofOrdinal? {n : Nat} {t : KeyType} (h : ofOrdinal? n = some t) :
    t.ordinal = n := by
  unfold ofOrdinal? at h
  split at h <;> cases h <;> rfl

end KeyType

end Credentials
