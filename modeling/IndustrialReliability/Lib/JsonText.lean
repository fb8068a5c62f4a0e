import Mathlib.Data.List.Sort

/-!
JSON texts.

`print` writes a value without blanks and in ASCII; `loads` reads any JSON text, with
blanks and every escape, and takes the last of two members with one key. What is printed
is read back (`loads_print`), so a text names one value (`print_inj`). Numbers come with
a text of their own (`Numeral`).

A lone surrogate is no character here, and its escape is not read.
-/

namespace Lib.JsonText

/-! ### Values -/

inductive Value (N : Type) where
  | null
  | bool (value : Bool)
  | number (value : N)
  | text (value : String)
  | array (items : List (Value N))
  | object (members : List (String × Value N))

def isNumberChar (c : Char) : Bool :=
  c.isDigit || c == '-' || c == '+' || c == '.' || c == 'e' || c == 'E'

/-- Numbers and how they are written; the proper ones are read back. -/
class Numeral (N : Type) where
  Proper : N → Prop
  print : N → List Char
  read : List Char → Option N
  read_print : ∀ {n}, Proper n → read (print n) = some n
  print_ne_nil : ∀ {n}, Proper n → print n ≠ []
  isNumberChar_of_mem : ∀ {n}, Proper n → ∀ c ∈ print n, isNumberChar c = true

variable {N : Type}

/-- What holds of the parts of a value holds of the value. -/
theorem Value.induction {P : Value N → Prop} (null : P .null) (bool : ∀ value, P (.bool value))
    (number : ∀ value, P (.number value)) (text : ∀ value, P (.text value))
    (array : ∀ items, (∀ item ∈ items, P item) → P (.array items))
    (object : ∀ members, (∀ member ∈ members, P member.2) → P (.object members)) (v : Value N) :
    P v :=
  @Value.rec N P (fun items => ∀ item ∈ items, P item)
    (fun members => ∀ member ∈ members, P member.2)
    (fun member => P member.2) null bool number text array object nofun
    (fun _ _ head tail => List.forall_mem_cons.mpr ⟨head, tail⟩) nofun
    (fun _ _ head tail => List.forall_mem_cons.mpr ⟨head, tail⟩) (fun _ _ value => value) v

/-! ### Strings -/

/-- The hexadecimal digits of a number, at least so many. -/
def hexDigits (width n : Nat) : List Char :=
  let digits := Nat.toDigits 16 n
  List.replicate (width - digits.length) '0' ++ digits

def escapeUnit (n : Nat) : List Char := '\\' :: 'u' :: hexDigits 4 n

/-- A character in ASCII. -/
def escape (c : Char) : List Char :=
  let n := c.toNat
  if n = 0x22 then ['\\', '"']
  else if n = 0x5c then ['\\', '\\']
  else if n = 0x08 then ['\\', 'b']
  else if n = 0x09 then ['\\', 't']
  else if n = 0x0a then ['\\', 'n']
  else if n = 0x0c then ['\\', 'f']
  else if n = 0x0d then ['\\', 'r']
  else if 0x20 ≤ n ∧ n ≤ 0x7e then [c]
  else if n < 0x10000 then escapeUnit n
  else
    let rest := n - 0x10000
    escapeUnit (0xd800 + rest / 0x400) ++ escapeUnit (0xdc00 + rest % 0x400)

def printText (text : String) : List Char := '"' :: (text.toList.flatMap escape ++ ['"'])

def hexVal (c : Char) : Option Nat :=
  if '0' ≤ c ∧ c ≤ '9' then some (c.toNat - '0'.toNat)
  else if 'a' ≤ c ∧ c ≤ 'f' then some (c.toNat - 'a'.toNat + 10)
  else if 'A' ≤ c ∧ c ≤ 'F' then some (c.toNat - 'A'.toNat + 10)
  else none

def ofHex (digits : List Char) : Option Nat :=
  digits.foldlM (fun n c => (hexVal c).map fun digit => 16 * n + digit) 0

/-- Four hexadecimal digits. -/
def readUnit (cs : List Char) : Option (Nat × List Char) :=
  if cs.length < 4 then none else (ofHex (cs.take 4)).map fun unit => (unit, cs.drop 4)

/-- What stands behind a backslash for one character. -/
def unescape (c : Char) : Option Char :=
  if c = '"' then some '"'
  else if c = '\\' then some '\\'
  else if c = '/' then some '/'
  else if c = 'b' then some (Char.ofNat 0x08)
  else if c = 'f' then some (Char.ofNat 0x0c)
  else if c = 'n' then some '\n'
  else if c = 'r' then some '\r'
  else if c = 't' then some '\t'
  else none

/-- The low half of a surrogate pair. -/
def readLow (high : Nat) : List Char → Option (Char × List Char)
  | '\\' :: 'u' :: cs => do
      let (low, cs) ← readUnit cs
      if 0xdc00 ≤ low ∧ low < 0xe000 then
        some (Char.ofNat (0x10000 + ((high - 0xd800) * 0x400 + (low - 0xdc00))), cs)
      else none
  | _ => none

/-- Behind a backslash. -/
def readEscape : List Char → Option (Char × List Char)
  | 'u' :: cs => do
      let (unit, cs) ← readUnit cs
      if 0xd800 ≤ unit ∧ unit < 0xdc00 then readLow unit cs
      else if 0xdc00 ≤ unit ∧ unit < 0xe000 then none
      else some (Char.ofNat unit, cs)
  | c :: cs => (unescape c).map fun c => (c, cs)
  | [] => none

/-- One character of a string; control characters have to be escaped. -/
def readChar : List Char → Option (Char × List Char)
  | '\\' :: cs => readEscape cs
  | c :: cs => if c.toNat < 0x20 then none else some (c, cs)
  | [] => none

/-- The characters up to the closing quote. -/
def readChars : Nat → List Char → Option (List Char × List Char)
  | 0, _ => none
  | _ + 1, [] => none
  | fuel + 1, c :: cs =>
      if c = '"' then some ([], cs)
      else (readChar (c :: cs)).bind fun (c, cs) => (readChars fuel cs).map fun (text, cs) =>
        (c :: text, cs)

section Strings

variable {n : Nat} {cs : List Char} {c : Char}

theorem hexVal_digitChar : ∀ d < 16, hexVal (Nat.digitChar d) = some d := by decide

theorem ofHex_append (first second : List Char) : ofHex (first ++ second) =
    (ofHex first).bind fun n =>
      second.foldlM (fun n c => (hexVal c).map fun digit => 16 * n + digit) n :=
  List.foldlM_append

theorem ofHex_toDigits (n : Nat) : ofHex (Nat.toDigits 16 n) = some n := by
  induction n using Nat.strongRecOn with
  | ind n ih =>
      by_cases small : n < 16
      · rw [Nat.toDigits_of_lt_base small]
        simp [ofHex, hexVal_digitChar n small]
      · rw [Nat.toDigits_of_base_le (by decide) (by omega), ofHex_append, ih (n / 16) (by omega)]
        simp [hexVal_digitChar (n % 16) (by omega)]
        omega

theorem ofHex_replicate (width : Nat) (digits : List Char) :
    ofHex (List.replicate width '0' ++ digits) = ofHex digits := by
  induction width with
  | zero => rfl
  | succ width ih => exact ih

theorem readUnit_hexDigits (small : n < 0x10000) :
    readUnit (hexDigits 4 n ++ cs) = some (n, cs) := by
  have short : (Nat.toDigits 16 n).length ≤ 4 :=
    (Nat.length_toDigits_le_iff (by decide) (by decide)).mpr (by simpa using small)
  have four : (hexDigits 4 n).length = 4 := by
    unfold hexDigits
    rw [List.length_append, List.length_replicate]
    omega
  unfold readUnit
  rw [if_neg (by rw [List.length_append]; omega), List.take_left' four, List.drop_left' four]
  unfold hexDigits
  rw [ofHex_replicate, ofHex_toDigits]
  rfl

theorem eq_of_toNat (same : c.toNat = n) : c = Char.ofNat n := by rw [← same, Char.ofNat_toNat]

theorem toNat_cases (c : Char) : c.toNat < 0xd800 ∨ 0xdfff < c.toNat ∧ c.toNat < 0x110000 := by
  have valid := c.valid
  simp only [UInt32.isValidChar, Nat.isValidChar] at valid
  exact valid

theorem readChar_plain (solid : c ≠ '\\') (printable : 0x20 ≤ c.toNat) :
    readChar (c :: cs) = some (c, cs) := by
  unfold readChar
  split
  · rename_i heads
    obtain ⟨rfl, -⟩ := List.cons_eq_cons.mp heads
    exact absurd rfl solid
  · rename_i heads
    obtain ⟨rfl, rfl⟩ := List.cons_eq_cons.mp heads
    rw [if_neg (by omega)]
  · rename_i heads
    cases heads

theorem readChar_unit (small : n < 0x10000) (low : n < 0xd800 ∨ 0xe000 ≤ n) :
    readChar (escapeUnit n ++ cs) = some (Char.ofNat n, cs) := by
  rw [escapeUnit, List.cons_append, List.cons_append, readChar, readEscape,
    readUnit_hexDigits small]
  simp only [Option.bind_eq_bind, Option.bind_some]
  rw [if_neg (by omega), if_neg (by omega)]

theorem readChar_pair {high low : Nat} (first : 0xd800 ≤ high ∧ high < 0xdc00)
    (second : 0xdc00 ≤ low ∧ low < 0xe000) :
    readChar (escapeUnit high ++ escapeUnit low ++ cs) =
      some (Char.ofNat (0x10000 + ((high - 0xd800) * 0x400 + (low - 0xdc00))), cs) := by
  rw [escapeUnit, escapeUnit, List.cons_append, List.cons_append, List.cons_append,
    List.cons_append, readChar, readEscape, List.append_assoc, readUnit_hexDigits (by omega)]
  simp only [Option.bind_eq_bind, Option.bind_some]
  rw [if_pos first, List.cons_append, List.cons_append, readLow, readUnit_hexDigits (by omega)]
  simp only [Option.bind_eq_bind, Option.bind_some]
  rw [if_pos second]

theorem readChar_backslash {e : Char} (named : unescape e = some c) (other : e ≠ 'u') :
    readChar ('\\' :: e :: cs) = some (c, cs) := by
  rw [readChar, readEscape, named, Option.map_some]
  rintro rfl
  exact other rfl

theorem readChar_escape (c : Char) (cs : List Char) : readChar (escape c ++ cs) = some (c, cs) := by
  have valid := toNat_cases c
  unfold escape
  dsimp only
  iterate 7
    split
    · rename_i same
      rw [eq_of_toNat same]
      exact readChar_backslash rfl (by decide)
  split
  · rename_i backslash _ _ _ _ _ printable
    refine readChar_plain ?_ printable.1
    rintro rfl
    exact backslash rfl
  split
  · rename_i small
    rw [readChar_unit small (by omega), Char.ofNat_toNat]
  · rename_i big
    rw [readChar_pair (by omega) (by omega)]
    have whole : 0x10000 + ((0xd800 + (c.toNat - 0x10000) / 0x400 - 0xd800) * 0x400 +
        (0xdc00 + (c.toNat - 0x10000) % 0x400 - 0xdc00)) = c.toNat := by omega
    rw [whole, Char.ofNat_toNat]

theorem escape_ne_quote (c : Char) (cs rest : List Char) : escape c ++ cs ≠ '"' :: rest := by
  intro same
  have read := readChar_escape c cs
  rw [same] at read
  obtain ⟨rfl, rfl⟩ : '"' = c ∧ rest = cs := by simpa [readChar] using read
  cases same

theorem readChars_succ {fuel : Nat} (other : ∀ rest, cs ≠ '"' :: rest) : readChars (fuel + 1) cs =
    (readChar cs).bind fun (c, cs) => (readChars fuel cs).map fun (text, cs) =>
      (c :: text, cs) := by
  cases cs with
  | nil => rfl
  | cons c cs =>
      have solid : c ≠ '"' := fun same => other cs (by rw [same])
      rw [readChars, if_neg solid]

theorem readChars_escape (text : List Char) {fuel : Nat} (enough : text.length < fuel) :
    readChars fuel (text.flatMap escape ++ '"' :: cs) = some (text, cs) := by
  induction text generalizing fuel with
  | nil =>
      obtain ⟨fuel, rfl⟩ : ∃ n, fuel = n + 1 := ⟨fuel - 1, by omega⟩
      rfl
  | cons c text ih =>
      obtain ⟨fuel, rfl⟩ : ∃ n, fuel = n + 1 := ⟨fuel - 1, by omega⟩
      rw [List.flatMap_cons, List.append_assoc, readChars_succ (escape_ne_quote c _),
        readChar_escape, Option.bind_some]
      dsimp only
      rw [ih (by simpa using enough)]
      rfl

/-- A text that needs no escapes. -/
theorem flatMap_escape_of_plain {text : List Char} (plain : ∀ c ∈ text, escape c = [c]) :
    text.flatMap escape = text := by
  rw [List.flatMap_congr plain, List.flatMap_singleton']

theorem length_le_flatMap_escape (text : List Char) :
    text.length ≤ (text.flatMap escape).length := by
  induction text with
  | nil => exact le_rfl
  | cons c text ih =>
      have some : escape c ≠ [] := fun none => by
        have read := readChar_escape c []
        rw [none] at read
        cases read
      have positive := List.length_pos_iff.mpr some
      rw [List.flatMap_cons, List.length_append, List.length_cons]
      omega

end Strings

/-! ### Printing -/

/-- The items with commas between them. -/
def commas : List (List Char) → List Char
  | [] => []
  | [item] => item
  | item :: next :: items => item ++ ',' :: commas (next :: items)

def printBool (value : Bool) : List Char :=
  if value then ['t', 'r', 'u', 'e'] else ['f', 'a', 'l', 's', 'e']

section Printing

variable [Numeral N]

mutual

def print : Value N → List Char
  | .null => ['n', 'u', 'l', 'l']
  | .bool value => printBool value
  | .number value => Numeral.print value
  | .text value => printText value
  | .array items => '[' :: (commas (printItems items) ++ [']'])
  | .object members => '\x7b' :: (commas (printMembers members) ++ ['\x7d'])

def printItems : List (Value N) → List (List Char)
  | [] => []
  | item :: items => print item :: printItems items

def printMembers : List (String × Value N) → List (List Char)
  | [] => []
  | (key, value) :: members => (printText key ++ ':' :: print value) :: printMembers members

end

/-- The numbers are proper, and the keys of an object differ. -/
inductive Value.WellFormed : Value N → Prop where
  | null : WellFormed .null
  | bool (value : Bool) : WellFormed (.bool value)
  | number {value : N} : Numeral.Proper value → WellFormed (.number value)
  | text (value : String) : WellFormed (.text value)
  | array {items : List (Value N)} : (∀ item ∈ items, WellFormed item) → WellFormed (.array items)
  | object {members : List (String × Value N)} : (members.map Prod.fst).Nodup →
      (∀ member ∈ members, WellFormed member.2) → WellFormed (.object members)

end Printing

/-! ### Reading -/

def isBlank (c : Char) : Bool := c == ' ' || c == '\t' || c == '\n' || c == '\r'

def skip (cs : List Char) : List Char := cs.dropWhile isBlank

/-- The pairs by key: the last value of a key, where the key came first. -/
def dict (pairs : List (String × Value N)) : List (String × Value N) :=
  pairs.foldl (fun members pair =>
    if pair.1 ∈ members.map Prod.fst then
      members.map fun member => if member.1 = pair.1 then pair else member
    else members ++ [pair]) []

def readLiteral (cs : List Char) : Option (Value N × List Char) :=
  if cs.take 4 = ['n', 'u', 'l', 'l'] then some (.null, cs.drop 4)
  else if cs.take 4 = ['t', 'r', 'u', 'e'] then some (.bool true, cs.drop 4)
  else if cs.take 5 = ['f', 'a', 'l', 's', 'e'] then some (.bool false, cs.drop 5)
  else none

def readText (cs : List Char) : Option (String × List Char) :=
  (readChars (cs.length + 1) cs).map fun (text, cs) => (String.ofList text, cs)

section Reading

variable [Numeral N]

def readNumber (cs : List Char) : Option (Value N × List Char) :=
  (Numeral.read (cs.takeWhile isNumberChar)).map fun n => (.number n, cs.dropWhile isNumberChar)

mutual

def readValue : Nat → List Char → Option (Value N × List Char)
  | 0, _ => none
  | _ + 1, [] => none
  | fuel + 1, c :: cs =>
      if c = '"' then (readText cs).map fun (text, cs) => (.text text, cs)
      else if c = '[' then
        match skip cs with
        | ']' :: cs => some (.array [], cs)
        | cs => (readItems fuel cs).map fun (items, cs) => (.array items, cs)
      else if c = '\x7b' then
        match skip cs with
        | '\x7d' :: cs => some (.object [], cs)
        | cs => (readMembers fuel cs).map fun (members, cs) => (.object (dict members), cs)
      else (readLiteral (c :: cs)).or (readNumber (c :: cs))

def readItems : Nat → List Char → Option (List (Value N) × List Char)
  | 0, _ => none
  | fuel + 1, cs =>
      (readValue fuel cs).bind fun (item, cs) =>
        match skip cs with
        | ',' :: cs => (readItems fuel (skip cs)).map fun (items, cs) => (item :: items, cs)
        | ']' :: cs => some ([item], cs)
        | _ => none

def readMembers : Nat → List Char → Option (List (String × Value N) × List Char)
  | 0, _ => none
  | _ + 1, [] => none
  | fuel + 1, c :: cs =>
      if c = '"' then
        (readText cs).bind fun (key, cs) =>
          match skip cs with
          | ':' :: cs =>
              (readValue fuel (skip cs)).bind fun (value, cs) =>
                match skip cs with
                | ',' :: cs => (readMembers fuel (skip cs)).map fun (members, cs) =>
                    ((key, value) :: members, cs)
                | '\x7d' :: cs => some ([(key, value)], cs)
                | _ => none
          | _ => none
      else none

end

/-- The value of a text. -/
def loads (cs : List Char) : Option (Value N) :=
  (readValue (cs.length + 1) (skip cs)).bind fun (value, cs) =>
    if skip cs = [] then some value else none

end Reading

/-! ### Reading what is printed -/

section RoundTrip

variable [Numeral N] {cs rest : List Char} {v w : Value N} {fuel : Nat}

theorem readText_printText (text : String) (cs : List Char) :
    readText (text.toList.flatMap escape ++ '"' :: cs) = some (text, cs) := by
  have enough : text.toList.length < (text.toList.flatMap escape ++ '"' :: cs).length + 1 := by
    have bound := length_le_flatMap_escape text.toList
    rw [List.length_append]
    omega
  unfold readText
  rw [readChars_escape _ enough, Option.map_some]
  dsimp only
  rw [String.ofList_toList]

omit [Numeral N] in
theorem foldl_dict (members pairs : List (String × Value N))
    (differ : ((members ++ pairs).map Prod.fst).Nodup) :
    pairs.foldl (fun members pair =>
      if pair.1 ∈ members.map Prod.fst then
        members.map fun member => if member.1 = pair.1 then pair else member
      else members ++ [pair]) members = members ++ pairs := by
  induction pairs generalizing members with
  | nil => rw [List.foldl_nil, List.append_nil]
  | cons pair pairs ih =>
      have new : pair.1 ∉ members.map Prod.fst := by
        rw [List.map_append, List.nodup_append] at differ
        exact fun mem => differ.2.2 _ mem _ (by simp) rfl
      rw [List.foldl_cons, if_neg new, ih]
      · rw [List.append_assoc, List.singleton_append]
      · rwa [List.append_assoc, List.singleton_append]

omit [Numeral N] in
theorem dict_of_nodup {pairs : List (String × Value N)} (differ : (pairs.map Prod.fst).Nodup) :
    dict pairs = pairs := foldl_dict [] pairs differ

/-- A number ends here. -/
def Delimits (rest : List Char) : Prop := ∀ c ∈ rest.head?, isNumberChar c = false

theorem delimits_cons {c : Char} (other : isNumberChar c = false) : Delimits (c :: rest) := by
  intro head mem
  cases mem
  exact other

theorem readNumber_print {n : N} (proper : Numeral.Proper n) (delimits : Delimits rest) :
    readNumber (Numeral.print n ++ rest) = some (.number n, rest) := by
  have chars := Numeral.isNumberChar_of_mem proper
  have ends : rest.takeWhile isNumberChar = [] ∧ rest.dropWhile isNumberChar = rest := by
    cases rest with
    | nil => exact ⟨rfl, rfl⟩
    | cons c rest =>
        have other := delimits c rfl
        exact ⟨List.takeWhile_cons_of_neg (by simp [other]),
          List.dropWhile_cons_of_neg (by simp [other])⟩
  unfold readNumber
  rw [List.takeWhile_append_of_pos chars, List.dropWhile_append_of_pos chars, ends.1, ends.2,
    List.append_nil, Numeral.read_print proper]
  rfl

theorem ne_of_number {c d : Char} (number : isNumberChar c = true)
    (other : isNumberChar d = false) : c ≠ d := by
  rintro rfl
  cases number.symm.trans other

omit [Numeral N] in
theorem readLiteral_of_number {c : Char} (number : isNumberChar c = true) :
    readLiteral (N := N) (c :: cs) = none := by
  have head : ∀ d text n, isNumberChar d = false → (c :: cs).take (n + 1) ≠ d :: text :=
      fun d text n other same =>
    ne_of_number number other (List.cons_eq_cons.mp same).1
  unfold readLiteral
  rw [if_neg (head _ _ _ rfl), if_neg (head _ _ _ rfl), if_neg (head _ _ _ rfl)]

/-- The first character of a value. -/
theorem exists_head (formed : v.WellFormed) :
    ∃ c cs, print v = c :: cs ∧ isBlank c = false ∧ c ≠ ']' := by
  cases formed with
  | null => exact ⟨_, _, rfl, rfl, by decide⟩
  | bool value => cases value <;> exact ⟨_, _, rfl, rfl, by decide⟩
  | @number value proper =>
      obtain ⟨c, cs, same⟩ := List.exists_cons_of_ne_nil (Numeral.print_ne_nil proper)
      have number := Numeral.isNumberChar_of_mem proper c (by simp [same])
      refine ⟨c, cs, same, ?_, ?_⟩
      · by_contra blank
        simp only [isBlank, Bool.not_eq_false, Bool.or_eq_true, beq_iff_eq] at blank
        rcases blank with ((rfl | rfl) | rfl) | rfl <;> cases number
      · rintro rfl
        cases number
  | text value => exact ⟨_, _, rfl, rfl, by decide⟩
  | array => exact ⟨_, _, by rw [print], rfl, by decide⟩
  | object => exact ⟨_, _, by rw [print], rfl, by decide⟩

theorem skip_cons {c : Char} (other : isBlank c = false) : skip (c :: cs) = c :: cs :=
  List.dropWhile_cons_of_neg (by simp [other])

theorem skip_print (formed : v.WellFormed) (rest : List Char) :
    skip (print v ++ rest) = print v ++ rest := by
  obtain ⟨c, cs, same, solid, -⟩ := exists_head formed
  rw [same]
  exact skip_cons solid

/-- How a value is read, whatever comes behind it. -/
def ReadsBack (v : Value N) : Prop :=
  ∀ fuel rest, (print v).length < fuel → Delimits rest →
    readValue fuel (print v ++ rest) = some (v, rest)

theorem readItems_print {items : List (Value N)} (nonempty : items ≠ [])
    (formed : ∀ item ∈ items, item.WellFormed)
    (back : ∀ item ∈ items, ReadsBack item)
    (enough : (commas (printItems items)).length + 1 < fuel) :
    readItems fuel (commas (printItems items) ++ ']' :: rest) = some (items, rest) := by
  induction items generalizing fuel with
  | nil => exact absurd rfl nonempty
  | cons item items ih =>
      obtain ⟨fuel, rfl⟩ : ∃ n, fuel = n + 1 := ⟨fuel - 1, by omega⟩
      obtain ⟨here, later⟩ := List.forall_mem_cons.mp back
      obtain ⟨-, laterFormed⟩ := List.forall_mem_cons.mp formed
      cases items with
      | nil =>
          have enough : (print item).length + 1 < fuel + 1 := enough
          show readItems (fuel + 1) (print item ++ ']' :: rest) = _
          rw [readItems, here fuel _ (by omega) (delimits_cons rfl)]
          rfl
      | cons next items =>
          have split : commas (printItems (item :: next :: items)) =
              print item ++ ',' :: commas (printItems (next :: items)) := rfl
          rw [split, List.length_append, List.length_cons] at enough
          rw [split, List.append_assoc, List.cons_append, readItems,
            here fuel _ (by omega) (delimits_cons rfl)]
          have solid : skip (commas (printItems (next :: items)) ++ ']' :: rest) =
              commas (printItems (next :: items)) ++ ']' :: rest := by
            obtain ⟨text, same⟩ :
                ∃ text, commas (printItems (next :: items)) = print next ++ text := by
              cases items with
              | nil => exact ⟨[], (List.append_nil _).symm⟩
              | cons => exact ⟨_, rfl⟩
            rw [same, List.append_assoc]
            exact skip_print (laterFormed next (by simp)) _
          show ((readItems fuel
            (skip (commas (printItems (next :: items)) ++ ']' :: rest))).map _) = _
          rw [solid, ih (by simp) laterFormed later (by omega)]
          rfl

theorem readMembers_print {members : List (String × Value N)} (nonempty : members ≠ [])
    (formed : ∀ member ∈ members, member.2.WellFormed)
    (back : ∀ member ∈ members, ReadsBack member.2)
    (enough : (commas (printMembers members)).length + 1 < fuel) :
    readMembers fuel (commas (printMembers members) ++ '\x7d' :: rest) = some (members, rest) := by
  induction members generalizing fuel with
  | nil => exact absurd rfl nonempty
  | cons member members ih =>
      obtain ⟨key, value⟩ := member
      obtain ⟨fuel, rfl⟩ : ∃ n, fuel = n + 1 := ⟨fuel - 1, by omega⟩
      obtain ⟨here, later⟩ := List.forall_mem_cons.mp back
      obtain ⟨hereFormed, laterFormed⟩ := List.forall_mem_cons.mp formed
      dsimp only at here hereFormed
      have named : ∀ text,
        readMembers (N := N) (fuel + 1) (printText key ++ ':' :: (print value ++ text)) =
          (readValue fuel (print value ++ text)).bind fun (value, cs) =>
            match skip cs with
            | ',' :: cs => (readMembers fuel (skip cs)).map fun (members, cs) =>
                ((key, value) :: members, cs)
            | '\x7d' :: cs => some ([(key, value)], cs)
            | _ => none := by
        intro text
        unfold printText
        rw [List.cons_append, readMembers, if_pos rfl, List.append_assoc, List.singleton_append,
          readText_printText, Option.bind_some]
        show (readValue fuel (skip (print value ++ text))).bind _ = _
        rw [skip_print hereFormed]
      cases members with
      | nil =>
          have enough : (printText key ++ ':' :: print value).length + 1 < fuel + 1 := enough
          rw [List.length_append, List.length_cons] at enough
          show readMembers (fuel + 1) ((printText key ++ ':' :: print value) ++ '\x7d' :: rest) = _
          rw [List.append_assoc, List.cons_append, named,
            here fuel _ (by omega) (delimits_cons rfl)]
          rfl
      | cons next members =>
          have split : commas (printMembers ((key, value) :: next :: members)) =
              (printText key ++ ':' :: print value) ++ ',' ::
                commas (printMembers (next :: members)) := rfl
          rw [split, List.length_append, List.length_append, List.length_cons,
            List.length_cons] at enough
          rw [split, List.append_assoc, List.append_assoc, List.cons_append,
            List.cons_append, named, here fuel _ (by omega) (delimits_cons rfl)]
          have solid : skip (commas (printMembers (next :: members)) ++ '\x7d' :: rest) =
              commas (printMembers (next :: members)) ++ '\x7d' :: rest := by
            obtain ⟨text, same⟩ :
                ∃ text, commas (printMembers (next :: members)) = '"' :: text := by
              obtain ⟨key, value⟩ := next
              cases members with
              | nil => exact ⟨_, rfl⟩
              | cons => exact ⟨_, rfl⟩
            rw [same]
            exact skip_cons rfl
          show ((readMembers fuel
            (skip (commas (printMembers (next :: members)) ++ '\x7d' :: rest))).map _) = _
          rw [solid, ih (by simp) laterFormed later (by omega)]
          rfl

theorem readValue_print (formed : v.WellFormed) : ReadsBack v := by
  induction v using Value.induction with
  | null =>
      intro fuel rest enough _
      obtain ⟨fuel, rfl⟩ : ∃ n, fuel = n + 1 := ⟨fuel - 1, by omega⟩
      rfl
  | bool value =>
      intro fuel rest enough _
      obtain ⟨fuel, rfl⟩ : ∃ n, fuel = n + 1 := ⟨fuel - 1, by omega⟩
      cases value <;> rfl
  | number value =>
      intro fuel rest enough delimits
      obtain ⟨fuel, rfl⟩ : ∃ n, fuel = n + 1 := ⟨fuel - 1, by omega⟩
      cases formed with
      | number proper =>
          obtain ⟨c, cs, same⟩ := List.exists_cons_of_ne_nil (Numeral.print_ne_nil proper)
          have number := Numeral.isNumberChar_of_mem proper c (by simp [same])
          have read := readNumber_print proper delimits
          rw [same, List.cons_append] at read
          rw [print, same, List.cons_append, readValue, if_neg (ne_of_number number rfl),
            if_neg (ne_of_number number rfl),
            if_neg (ne_of_number number rfl), readLiteral_of_number number, Option.none_or, read]
  | text value =>
      intro fuel rest enough _
      obtain ⟨fuel, rfl⟩ : ∃ n, fuel = n + 1 := ⟨fuel - 1, by omega⟩
      rw [print, printText, List.cons_append, List.append_assoc, List.singleton_append, readValue,
        if_pos rfl, readText_printText]
      rfl
  | array items ih =>
      intro fuel rest enough _
      obtain ⟨fuel, rfl⟩ : ∃ n, fuel = n + 1 := ⟨fuel - 1, by omega⟩
      cases formed with
      | array formed =>
          rw [print, List.length_cons, List.length_append, List.length_singleton] at enough
          rw [print, List.cons_append, List.append_assoc, List.singleton_append, readValue,
            if_neg (by decide), if_pos rfl]
          cases items with
          | nil => rfl
          | cons item items =>
              obtain ⟨text, first⟩ :
                  ∃ text, commas (printItems (item :: items)) = print item ++ text := by
                cases items with
                | nil => exact ⟨[], (List.append_nil _).symm⟩
                | cons => exact ⟨_, rfl⟩
              have read : readItems fuel (commas (printItems (item :: items)) ++ ']' :: rest) =
                  some (item :: items, rest) :=
                readItems_print (List.cons_ne_nil item items) formed
                  (fun item mem => ih item mem (formed item mem)) (by omega)
              obtain ⟨c, cs, same, solid, «open»⟩ := exists_head (formed item (by simp))
              rw [first, same, List.cons_append, List.cons_append] at read ⊢
              rw [skip_cons solid]
              split
              · rename_i heads
                exact absurd (List.cons_eq_cons.mp heads).1 «open»
              · rw [read]
                rfl
  | object members ih =>
      intro fuel rest enough _
      obtain ⟨fuel, rfl⟩ : ∃ n, fuel = n + 1 := ⟨fuel - 1, by omega⟩
      cases formed with
      | object differ formed =>
          rw [print, List.length_cons, List.length_append, List.length_singleton] at enough
          rw [print, List.cons_append, List.append_assoc, List.singleton_append, readValue,
            if_neg (by decide), if_neg (by decide), if_pos rfl]
          cases members with
          | nil => rfl
          | cons member members =>
              obtain ⟨text, first⟩ :
                  ∃ text, commas (printMembers (member :: members)) = '"' :: text := by
                obtain ⟨key, value⟩ := member
                cases members with
                | nil => exact ⟨_, rfl⟩
                | cons => exact ⟨_, rfl⟩
              have read : readMembers fuel
                (commas (printMembers (member :: members)) ++ '\x7d' :: rest) =
                  some (member :: members, rest) :=
                readMembers_print (List.cons_ne_nil member members) formed
                  (fun member mem => ih member mem (formed member mem)) (by omega)
              rw [first, List.cons_append] at read ⊢
              rw [skip_cons rfl]
              show (readMembers fuel ('"' :: (text ++ '\x7d' :: rest))).map _ = _
              rw [read]
              show some (Value.object (dict (member :: members)), rest) = _
              rw [dict_of_nodup differ]

/-- What is printed is read back. -/
theorem loads_print (formed : v.WellFormed) : loads (print v) = some v := by
  have read := readValue_print formed ((print v).length + 1) [] (Nat.lt_succ_self _) nofun
  have solid := skip_print formed []
  rw [List.append_nil] at read solid
  unfold loads
  rw [solid, read]
  rfl

/-- A text names one value. -/
theorem print_inj (formed : v.WellFormed) (formed' : w.WellFormed) (same : print v = print w) :
    v = w := by
  have read := loads_print formed
  rw [same, loads_print formed'] at read
  exact (Option.some.inj read).symm

end RoundTrip

end Lib.JsonText
