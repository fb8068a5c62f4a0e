import IndustrialReliability.Lib.JsonText
import Mathlib.Algebra.Ring.Int.Defs
import Mathlib.Data.List.Basic

/-!
Identifiers, digests and the arithmetic of the platform.

Version-5 UUIDs and double-precision numbers are the two things the code takes
from its platform without looking inside. They enter as type classes, so every
result below holds for whatever hash `uuid5` computes and whatever rounding the
numbers do: in particular for IEEE doubles, and for exact arithmetic.
-/

namespace IndustrialReliability

/-- A UUID as its integer value. The textual order the database sorts by is the
order of these integers: the rendering is fixed-width lowercase hexadecimal. -/
abbrev UUID := Nat

/-- A SHA-256 digest as its integer value. A string passes the schema pattern
`^[0-9a-f]{64}$` exactly when it renders one. -/
abbrev Sha256 := Nat

namespace UUID

/-- `str(uuid)`: 8-4-4-4-12 lowercase hexadecimal digits. -/
def str (u : UUID) : String :=
  let hex := Lib.JsonText.hexDigits 32 u
  let group (start len : Nat) := String.ofList ((hex.drop start).take len)
  group 0 8 ++ "-" ++ group 8 4 ++ "-" ++ group 12 4 ++ "-" ++ group 16 4 ++ "-" ++ group 20 12

end UUID

/-- The 64 lowercase hexadecimal digits of a digest. -/
def Sha256.hex (digest : Sha256) : String := String.ofList (Lib.JsonText.hexDigits 64 digest)

/-- The name-based identifier of a namespace and a name. -/
class Uuid5 where
  uuid5 : UUID → String → UUID

export Uuid5 (uuid5)

def NAMESPACE_URL : UUID := 0x6ba7b8119dad11d180b400c04fd430c8

def RUNTIME_NAMESPACE : UUID := 0xbc626fb974385da39437f5b66d34aa52

/-- Deterministic identity of a runtime message. The source rejects an empty
kind or identity; no caller passes one. -/
def runtimeId [Uuid5] (kind : String) (replaySessionId : UUID) (identity : String) : UUID :=
  uuid5 RUNTIME_NAMESPACE (kind ++ ":" ++ replaySessionId.str ++ ":" ++ identity)

/-- Identifiers looked up in a table of known names. -/
abbrev knownUuid5 (known : List (String × UUID)) : Uuid5 where
  uuid5 _ name := (known.lookup name).getD 0

/-- The floating-point operations the code uses, and the SHA-256 of a text that
renders such numbers. -/
class PyFloat (F : Type) where
  ofInt : Int → F
  sub : F → F → F
  div : F → F → F
  abs : F → F
  le : F → F → Bool
  isFinite : F → Bool
  repr : F → String
  mean : List F → F
  std : List F → F
  min : List F → F
  max : List F → F

/-- Small integers, on which double arithmetic is exact; the deviation is that of
a window of one repeated value. -/
instance exactIntegers : PyFloat Int where
  ofInt n := n
  sub a b := a - b
  div a b := a / b
  abs a := a.natAbs
  le a b := decide (a ≤ b)
  isFinite _ := true
  repr a := toString a ++ ".0"
  mean xs := xs.sum / xs.length
  std _ := 0
  min xs := xs.foldl min (xs.headD 0)
  max xs := xs.foldl max (xs.headD 0)

/-- The digest of a text. -/
class Sha256Digest where
  sha256 : String → Sha256

export Sha256Digest (sha256)

end IndustrialReliability
