import IndustrialReliability.Lib.JsonText

/-!
Canonical JSON texts.

The canonical form of a value has the members of every object in the order of their
keys. Two values are printed alike in canonical form exactly when they are the same but
for the order of members (`same_of_canonical_eq`, `Same.canonical_eq`), so a digest of the
text is a digest of the value.

Numbers are integers and floats. The text of a float is a parameter (`FloatText`): it is
read back, and it shows that it is no integer.
-/

namespace Lib.JsonText

/-! ### Numbers -/

inductive Number (R : Type) where
  | integer (value : Int)
  | float (value : R)

/-- A fraction or an exponent. -/
def marksFloat (c : Char) : Bool := c == '.' || c == 'e' || c == 'E'

/-- How the finite floats are written and read. -/
class FloatText (R : Type) where
  Finite : R → Prop
  repr : R → List Char
  read : List Char → Option R
  read_repr : ∀ {x}, Finite x → read (repr x) = some x
  isNumberChar_of_mem : ∀ {x}, Finite x → ∀ c ∈ repr x, isNumberChar c = true
  marked : ∀ {x}, Finite x → (repr x).any marksFloat = true

/-- Digits without a leading zero. -/
def readNat (cs : List Char) : Option Nat :=
  if cs = [] ∨ cs.all Char.isDigit = false ∨ cs.head? = some '0' ∧ 1 < cs.length then none
  else some (Nat.ofDigitChars 10 cs 0)

def readInt : List Char → Option Int
  | '-' :: cs => (readNat cs).map fun n => -(n : Int)
  | cs => (readNat cs).map Int.ofNat

section Integers

theorem head?_toDigits {n : Nat} (zero : (Nat.toDigits 10 n).head? = some '0') : n = 0 := by
  induction n using Nat.strongRecOn with
  | ind n ih =>
      by_cases small : n < 10
      · rw [Nat.toDigits_of_lt_base small] at zero
        have digits : ∀ n < 10, [Nat.digitChar n].head? = some '0' → n = 0 := by decide
        exact digits n small zero
      · rw [Nat.toDigits_of_base_le (by decide) (by omega),
          List.head?_append_of_ne_nil _ Nat.toDigits_ne_nil] at zero
        have := ih (n / 10) (by omega) zero
        omega

theorem readNat_toDigits (n : Nat) : readNat (Nat.toDigits 10 n) = some n := by
  have digits : (Nat.toDigits 10 n).all Char.isDigit = true :=
    List.all_eq_true.mpr fun c mem => Nat.isDigit_of_mem_toDigits (by decide) (by decide) mem
  unfold readNat
  rw [if_neg, Nat.ofDigitChars_ten_toDigits]
  rintro (none | other | ⟨zero, long⟩)
  · exact Nat.toDigits_ne_nil none
  · cases digits.symm.trans other
  · rw [head?_toDigits zero] at long
    exact absurd long (by decide)

theorem isNumberChar_of_isDigit {c : Char} (digit : c.isDigit = true) : isNumberChar c = true := by
  unfold isNumberChar
  rw [digit]
  rfl

theorem marksFloat_of_isDigit {c : Char} (digit : c.isDigit = true) : marksFloat c = false := by
  unfold marksFloat
  simp only [Bool.or_eq_false_iff, beq_eq_false_iff_ne]
  refine ⟨⟨?_, ?_⟩, ?_⟩ <;>
    · rintro rfl
      cases digit

/-- The sign and the digits of an integer. -/
theorem toList_toString (n : Int) :
    (∃ m : Nat, n = m ∧ (toString n).toList = Nat.toDigits 10 m) ∨
      ∃ m : Nat, n = -(m : Int) ∧ (toString n).toList = '-' :: Nat.toDigits 10 m := by
  cases n with
  | ofNat m => exact .inl ⟨m, rfl, Nat.toList_repr⟩
  | negSucc m =>
      refine .inr ⟨m + 1, rfl, ?_⟩
      show (("-" : String) ++ Nat.repr (m + 1)).toList = _
      rw [String.toList_append, Nat.toList_repr]
      rfl

theorem readInt_toString (n : Int) : readInt (toString n).toList = some n := by
  rcases toList_toString n with ⟨m, rfl, text⟩ | ⟨m, rfl, text⟩
  · rw [text, readInt, readNat_toDigits]
    · rfl
    · intro cs minus
      have digit : Char.isDigit '-' = true :=
        Nat.isDigit_of_mem_toDigits (n := m) (b := 10) (by decide) (by decide)
          (by rw [minus]; exact List.mem_cons_self)
      cases digit
  · rw [text, readInt, readNat_toDigits]
    rfl

theorem chars_toString {n : Int} {c : Char} (mem : c ∈ (toString n).toList) :
    c = '-' ∨ c.isDigit = true := by
  have digit {m : Nat} (mem : c ∈ Nat.toDigits 10 m) :=
    Nat.isDigit_of_mem_toDigits (by decide) (by decide) mem
  rcases toList_toString n with ⟨m, -, text⟩ | ⟨m, -, text⟩ <;> rw [text] at mem
  · exact .inr (digit mem)
  · rcases List.mem_cons.mp mem with rfl | mem
    · exact .inl rfl
    · exact .inr (digit mem)

theorem toList_toString_ne_nil (n : Int) : (toString n).toList ≠ [] := by
  rcases toList_toString n with ⟨m, -, text⟩ | ⟨m, -, text⟩ <;> rw [text]
  · exact Nat.toDigits_ne_nil
  · exact List.cons_ne_nil _ _

end Integers

namespace Number

variable {R : Type} [FloatText R]

def print : Number R → List Char
  | integer value => (toString value).toList
  | float value => FloatText.repr value

def read (cs : List Char) : Option (Number R) :=
  if cs.any marksFloat then (FloatText.read cs).map float else (readInt cs).map integer

inductive Proper : Number R → Prop where
  | integer (value : Int) : Proper (.integer value)
  | float {value : R} : FloatText.Finite value → Proper (.float value)

theorem read_print {n : Number R} (proper : n.Proper) : read n.print = some n := by
  unfold read
  cases proper with
  | integer value =>
      have plain : (toString value).toList.any marksFloat = false := by
        refine List.any_eq_false.mpr fun c mem => ?_
        rcases chars_toString mem with rfl | digit
        · decide
        · rw [marksFloat_of_isDigit digit]
          decide
      show (if (toString value).toList.any marksFloat = true then _ else
        (readInt (toString value).toList).map _) = _
      rw [plain, readInt_toString]
      rfl
  | @float value finite =>
      show (if (FloatText.repr value).any marksFloat = true then
        (FloatText.read (FloatText.repr value)).map _ else _) = _
      rw [if_pos (FloatText.marked finite), FloatText.read_repr finite]
      rfl

theorem print_ne_nil {n : Number R} (proper : n.Proper) : n.print ≠ [] := by
  cases proper with
  | integer value => exact toList_toString_ne_nil value
  | @float value finite =>
      intro none
      have marked := FloatText.marked finite
      rw [show FloatText.repr value = [] from none] at marked
      cases marked

theorem isNumberChar_of_mem {n : Number R} (proper : n.Proper) :
    ∀ c ∈ n.print, isNumberChar c = true := by
  cases proper with
  | integer value =>
      intro c mem
      rcases chars_toString mem with rfl | digit
      · rfl
      · exact isNumberChar_of_isDigit digit
  | float finite => exact FloatText.isNumberChar_of_mem finite

instance : Numeral (Number R) where
  Proper := Proper
  print := print
  read := read
  read_print := read_print
  print_ne_nil := print_ne_nil
  isNumberChar_of_mem := isNumberChar_of_mem

end Number

/-! ### The order of members -/

variable {N : Type} {v w : Value N}

mutual

/-- The members of every object in the order of their keys. -/
def canonical : Value N → Value N
  | .array items => .array (canonicalItems items)
  | .object members => .object ((canonicalMembers members).insertionSort fun a b => a.1 ≤ b.1)
  | .null => .null
  | .bool value => .bool value
  | .number value => .number value
  | .text value => .text value

def canonicalItems : List (Value N) → List (Value N)
  | [] => []
  | item :: items => canonical item :: canonicalItems items

def canonicalMembers : List (String × Value N) → List (String × Value N)
  | [] => []
  | (key, value) :: members => (key, canonical value) :: canonicalMembers members

end

/-- Related lists are sorted alike where the relation keeps the order. -/
theorem forall₂_insertionSort {α β : Type} {related : α → β → Prop} {le : α → α → Prop}
    {le' : β → β → Prop}
    [DecidableRel le] [DecidableRel le']
    (agree : ∀ a b a' b', related a b → related a' b' → (le a a' ↔ le' b b'))
    {as : List α} {bs : List β} (each : List.Forall₂ related as bs) :
    List.Forall₂ related (as.insertionSort le) (bs.insertionSort le') := by
  have insert {a : α} {b : β} (here : related a b) {as : List α} {bs : List β}
      (each : List.Forall₂ related as bs) :
      List.Forall₂ related (as.orderedInsert le a) (bs.orderedInsert le' b) := by
    induction each with
    | nil => exact .cons here .nil
    | @cons a' b' as bs there each ih =>
        rw [List.orderedInsert, List.orderedInsert]
        by_cases before : le a a'
        · rw [if_pos before, if_pos ((agree _ _ _ _ here there).mp before)]
          exact .cons here (.cons there each)
        · rw [if_neg before, if_neg (mt (agree _ _ _ _ here there).mpr before)]
          exact .cons there ih
  induction each with
  | nil => exact .nil
  | cons here _ ih =>
      rw [List.insertionSort_cons, List.insertionSort_cons]
      exact insert here ih

theorem canonicalItems_eq (items : List (Value N)) :
    canonicalItems items = items.map canonical := by
  induction items with
  | nil => rfl
  | cons item items ih => rw [canonicalItems, ih, List.map_cons]

theorem canonicalMembers_eq (members : List (String × Value N)) :
    canonicalMembers members = members.map fun member => (member.1, canonical member.2) := by
  induction members with
  | nil => rfl
  | cons member members ih => rw [canonicalMembers, ih, List.map_cons]

theorem mem_canonical {members : List (String × Value N)} {member : String × Value N} :
    member ∈ (canonicalMembers members).insertionSort (fun a b => a.1 ≤ b.1) ↔
      ∃ value, (member.1, value) ∈ members ∧ canonical value = member.2 := by
  rw [List.mem_insertionSort, canonicalMembers_eq, List.mem_map]
  constructor
  · rintro ⟨⟨key, value⟩, mem, rfl⟩
    exact ⟨value, mem, rfl⟩
  · rintro ⟨value, mem, same⟩
    exact ⟨_, mem, by rw [same]⟩

theorem keys_canonical (members : List (String × Value N)) :
    (((canonicalMembers members).insertionSort fun a b => a.1 ≤ b.1).map Prod.fst).Perm
        (members.map Prod.fst) := by
  refine ((List.perm_insertionSort _ _).map _).trans (List.Perm.of_eq ?_)
  rw [canonicalMembers_eq, List.map_map]
  rfl

theorem wellFormed_canonical [Numeral N] (formed : v.WellFormed) : (canonical v).WellFormed := by
  induction v using Value.induction with
  | null => exact .null
  | bool value => exact .bool value
  | number value => exact formed
  | text value => exact .text value
  | array items ih =>
      cases formed with
      | array formed =>
          rw [canonical, canonicalItems_eq]
          refine .array fun item mem => ?_
          obtain ⟨item, own, rfl⟩ := List.mem_map.mp mem
          exact ih item own (formed item own)
  | object members ih =>
      cases formed with
      | object differ formed =>
          rw [canonical]
          refine .object ((keys_canonical members).nodup_iff.mpr differ) fun member mem => ?_
          obtain ⟨value, mem, same⟩ := mem_canonical.mp mem
          rw [← same]
          exact ih _ mem (formed _ mem)

/-- The same value, whatever the order of members. -/
inductive Same : Value N → Value N → Prop where
  | null : Same .null .null
  | bool (value : Bool) : Same (.bool value) (.bool value)
  | number (value : N) : Same (.number value) (.number value)
  | text (value : String) : Same (.text value) (.text value)
  | array {items items' : List (Value N)} : items.length = items'.length →
      (∀ (n : Nat) (item item' : Value N), items[n]? = some item → items'[n]? = some item' →
        Same item item') →
      Same (.array items) (.array items')
  | object {members members' : List (String × Value N)} :
      (∀ key, key ∈ members.map Prod.fst ↔ key ∈ members'.map Prod.fst) →
      (∀ key value value', (key, value) ∈ members → (key, value') ∈ members' → Same value value') →
      Same (.object members) (.object members')

theorem value_unique {members : List (String × Value N)} (differ : (members.map Prod.fst).Nodup)
    {key : String} {value value' : Value N} (mem : (key, value) ∈ members)
    (mem' : (key, value') ∈ members) :
    value = value' := by
  have same := List.inj_on_of_nodup_map differ mem mem' rfl
  exact congrArg Prod.snd same

theorem exists_value {members : List (String × Value N)} {key : String} :
    key ∈ members.map Prod.fst ↔ ∃ value, (key, value) ∈ members := by
  simp

variable [Numeral N]

theorem Same.canonical_eq (same : Same v w) (formed : v.WellFormed) (formed' : w.WellFormed) :
    canonical v = canonical w := by
  induction same with
  | null | bool | number | text => rfl
  | @array items items' long each ih =>
      cases formed with
      | array formed =>
          cases formed' with
          | array formed' =>
              rw [canonical, canonical, canonicalItems_eq, canonicalItems_eq]
              congr 1
              refine List.ext_getElem? fun n => ?_
              rw [List.getElem?_map, List.getElem?_map]
              rcases lt_or_ge n items.length with inside | outside
              · have inside' : n < items'.length := by omega
                rw [List.getElem?_eq_getElem inside, List.getElem?_eq_getElem inside',
                  Option.map_some, Option.map_some]
                exact congrArg some
                  (ih n _ _ (List.getElem?_eq_getElem inside) (List.getElem?_eq_getElem inside')
                  (formed _ (List.getElem_mem inside)) (formed' _ (List.getElem_mem inside')))
              · rw [List.getElem?_eq_none outside, List.getElem?_eq_none (by omega)]
  | @object members members' keys each ih =>
      cases formed with
      | object differ formed =>
          cases formed' with
          | object differ' formed' =>
              have nodup {members : List (String × Value N)}
                  (differ : (members.map Prod.fst).Nodup) :
                  ((canonicalMembers members).insertionSort fun a b => a.1 ≤ b.1).Nodup :=
                List.Nodup.of_map Prod.fst ((keys_canonical members).nodup_iff.mpr differ)
              have alike {key value value'} (mem : (key, value) ∈ members)
                  (mem' : (key, value') ∈ members') :
                  canonical value = canonical value' :=
                    ih key value value' mem mem' (formed _ mem) (formed' _ mem')
              rw [canonical, canonical]
              congr 1
              -- The sorted members are permutations of each other, and the keys differ.
              refine List.Perm.eq_of_pairwise (fun a b memA memB le ge => ?_)
                (List.pairwise_insertionSort _ _) (List.pairwise_insertionSort _ _)
                ((List.perm_ext_iff_of_nodup (nodup differ) (nodup differ')).mpr fun member => ?_)
              · obtain ⟨value, mem, same⟩ := mem_canonical.mp memA
                obtain ⟨value', mem', same'⟩ := mem_canonical.mp memB
                have key : a.1 = b.1 := String.le_antisymm le ge
                rw [← key] at mem'
                exact Prod.ext key (by rw [← same, ← same', alike mem mem'])
              · rw [mem_canonical, mem_canonical]
                constructor
                · rintro ⟨value, mem, same⟩
                  obtain ⟨value', mem'⟩ :=
                    exists_value.mp ((keys _).mp (exists_value.mpr ⟨value, mem⟩))
                  exact ⟨value', mem', by rw [← same, alike mem mem']⟩
                · rintro ⟨value', mem', same⟩
                  obtain ⟨value, mem⟩ :=
                    exists_value.mp ((keys _).mpr (exists_value.mpr ⟨value', mem'⟩))
                  exact ⟨value, mem, by rw [← same, alike mem mem']⟩

theorem same_of_canonical_eq (same : canonical v = canonical w) (formed : v.WellFormed)
    (formed' : w.WellFormed) :
    Same v w := by
  induction v using Value.induction generalizing w with
  | null => cases w <;> cases same; exact .null
  | bool value => cases w <;> cases same; exact .bool value
  | number value => cases w <;> cases same; exact .number value
  | text value => cases w <;> cases same; exact .text value
  | array items ih =>
      cases formed with
      | array formed =>
          cases formed' with
          | @array items' formed' =>
              rw [canonical, canonical, canonicalItems_eq, canonicalItems_eq,
                Value.array.injEq] at same
              have each {n : Nat} : (items[n]?).map canonical = (items'[n]?).map canonical := by
                rw [← List.getElem?_map, ← List.getElem?_map, same]
              refine .array (by simpa using congrArg List.length same) fun n => ?_
              intro item item' here here'
              have alike := each (n := n)
              rw [here, here'] at alike
              exact ih item (List.mem_of_getElem? here) (Option.some.inj alike)
                (formed _ (List.mem_of_getElem? here))
                (formed' _ (List.mem_of_getElem? here'))
          | _ => cases same
  | object members ih =>
      cases formed with
      | object differ formed =>
          cases formed' with
          | @object members' differ' formed' =>
              rw [canonical, canonical, Value.object.injEq] at same
              refine .object (fun key => ?_) fun key value value' mem mem' => ?_
              · rw [← (keys_canonical members).mem_iff, same, (keys_canonical members').mem_iff]
              · have sorted : (key, canonical value) ∈ (canonicalMembers members).insertionSort
                    fun a b => a.1 ≤ b.1 :=
                  mem_canonical.mpr ⟨value, mem, rfl⟩
                rw [same] at sorted
                obtain ⟨other, held, alike⟩ := mem_canonical.mp sorted
                obtain rfl := value_unique differ' held mem'
                exact ih _ mem alike.symm (formed _ mem) (formed' _ mem')
          | _ => cases same

end Lib.JsonText
