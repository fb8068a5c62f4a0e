import IndustrialReliability.Lib.CanonicalJson
import IndustrialReliability.Lab.Commands

/-!
What the digests of the virtual lab identify.

A digest is taken of the canonical JSON of a command or a definition. Both texts are
those of a value (`Writes`), so two texts are equal only where the contents are: up to
the order of the members of an object.
-/

namespace IndustrialReliability

open Lib.JsonText
  (Value Number FloatText Numeral commas printText printItems printMembers canonical)

/-- The text that `repr` gives a float, by documented behaviour: the finite ones are read
back, and not as integers. -/
class ReprText (R : Type) [LabNumber R] extends FloatText R where
  repr_eq : ∀ x : R, LabNumber.repr x = String.ofList (FloatText.repr x)
  finite_iff : ∀ x : R, FloatText.Finite x ↔ LabNumber.isFinite x = true

/-! ### Identifiers -/

namespace UUID

open Lib.JsonText (hexDigits)

theorem length_hexDigits {width n : Nat} (pos : 0 < width) (small : n < 16 ^ width) :
    (hexDigits width n).length = width := by
  have short : (Nat.toDigits 16 n).length ≤ width :=
    (Nat.length_toDigits_le_iff (by decide) pos).mpr small
  unfold hexDigits
  rw [List.length_append, List.length_replicate]
  omega

theorem hexDigits_inj {width n m : Nat} (same : hexDigits width n = hexDigits width m) : n = m := by
  have read := congrArg Lib.JsonText.ofHex same
  unfold hexDigits at read
  rw [Lib.JsonText.ofHex_replicate, Lib.JsonText.ofHex_replicate, Lib.JsonText.ofHex_toDigits,
    Lib.JsonText.ofHex_toDigits] at read
  exact Option.some.inj read

theorem digitChar_plain :
    ∀ d < 16, Nat.digitChar d ≠ '-' ∧
    Lib.JsonText.escape (Nat.digitChar d) = [Nat.digitChar d] := by
  decide

theorem mem_toDigits {n : Nat} {c : Char} (mem : c ∈ Nat.toDigits 16 n) :
    ∃ d < 16, c = Nat.digitChar d := by
  induction n using Nat.strongRecOn with
  | ind n ih =>
      by_cases small : n < 16
      · rw [Nat.toDigits_of_lt_base small, List.mem_singleton] at mem
        exact ⟨n, small, mem⟩
      · rw [Nat.toDigits_of_base_le (by decide) (by omega), List.mem_append,
          List.mem_singleton] at mem
        rcases mem with earlier | last
        · exact ih (n / 16) (by omega) earlier
        · exact ⟨n % 16, Nat.mod_lt _ (by decide), last⟩

theorem mem_hexDigits {width n : Nat} {c : Char} (mem : c ∈ hexDigits width n) :
    ∃ d < 16, c = Nat.digitChar d := by
  rcases List.mem_append.mp mem with zero | digit
  · exact ⟨0, by decide, List.eq_of_mem_replicate zero⟩
  · exact mem_toDigits digit

/-- The digits of an identifier, without the dashes. -/
theorem filter_str (u : UUID) (small : u < 2 ^ 128) :
    u.str.toList.filter (· ≠ '-') = hexDigits 32 u := by
  have long : (hexDigits 32 u).length = 32 := length_hexDigits (by decide) (by omega)
  have digits : ∀ c ∈ hexDigits 32 u, decide (c ≠ '-') = true := by
    intro c mem
    obtain ⟨d, small, rfl⟩ := mem_hexDigits mem
    exact decide_eq_true (digitChar_plain d small).1
  unfold str
  generalize hexDigits 32 u = hex at *
  have group (start len : Nat) : ((hex.drop start).take len).filter (· ≠ '-') =
      (hex.drop start).take len :=
    List.filter_eq_self.mpr fun c mem => digits c (List.mem_of_mem_drop (List.mem_of_mem_take mem))
  have dash : "-".toList.filter (· ≠ '-') = [] := rfl
  simp only [String.toList_append, String.toList_ofList, List.filter_append, group, dash,
    List.append_nil]
  rw [List.drop_zero, ← List.take_add, ← List.take_add, ← List.take_add, ← List.take_add]
  exact List.take_of_length_le (by omega)

theorem str_inj {u v : UUID} (small : u < 2 ^ 128) (small' : v < 2 ^ 128) (same : u.str = v.str) :
    u = v := by
  have digits := filter_str u small
  rw [same, filter_str v small'] at digits
  exact (hexDigits_inj digits).symm

/-- An identifier needs no escapes. -/
theorem escape_str (u : UUID) : u.str.toList.flatMap Lib.JsonText.escape = u.str.toList := by
  have plain : ∀ c ∈ u.str.toList, c = '-' ∨ c ∈ hexDigits 32 u := by
    have group {c : Char} {start len : Nat} (mem : c ∈ ((hexDigits 32 u).drop start).take len) :
        c ∈ hexDigits 32 u := List.mem_of_mem_drop (List.mem_of_mem_take mem)
    intro c mem
    unfold str at mem
    simp only [String.toList_append, String.toList_ofList, List.mem_append, List.mem_singleton,
      show "-".toList = ['-'] from rfl] at mem
    rcases mem with (((((((mem | dash) | mem) | dash) | mem) | dash) | mem) | dash) | mem
    all_goals first
      | exact .inl dash
      | exact .inr (group mem)
  refine Lib.JsonText.flatMap_escape_of_plain fun c mem => ?_
  rcases plain c mem with rfl | digit
  · rfl
  · obtain ⟨d, small, rfl⟩ := mem_hexDigits digit
    exact (digitChar_plain d small).2

end UUID

/-! ### Texts of values -/

section Texts

variable {R : Type} [FloatText R]

/-- The text is that of a value. -/
def Writes (text : String) (v : Value (Number R)) : Prop := text.toList = Lib.JsonText.print v

theorem Writes.eq_iff {text text' : String} {v v' : Value (Number R)} (writes : Writes text v)
    (writes' : Writes text' v')
    (formed : v.WellFormed) (formed' : v'.WellFormed) : text = text' ↔ v = v' := by
  constructor
  · rintro rfl
    exact Lib.JsonText.print_inj formed formed' (writes.symm.trans writes')
  · rintro rfl
    exact String.toList_inj.mp (writes.trans writes'.symm)

theorem intercalate_comma (items : List (List Char)) :
    List.intercalate [','] items = commas items := by
  induction items with
  | nil => rfl
  | cons item items ih =>
      cases items with
      | nil => simp [commas]
      | cons next items => rw [commas, ← ih, List.intercalate_cons_cons, List.append_assoc,
          List.singleton_append]

theorem escaped_toList (text : String) :
    (Json.escaped text).toList = text.toList.flatMap Lib.JsonText.escape :=
  String.toList_ofList

theorem writes_string (text : String) : Writes (R := R) (Json.string text) (.text text) := by
  show ("\"" ++ Json.escaped text ++ "\"").toList = _
  rw [String.toList_append, String.toList_append, escaped_toList]
  rfl

theorem writes_uuid (id : UUID) : Writes (R := R) (Json.uuid id) (.text id.str) := by
  show ("\"" ++ id.str ++ "\"").toList = '"' :: (id.str.toList.flatMap Lib.JsonText.escape ++ ['"'])
  rw [String.toList_append, String.toList_append, UUID.escape_str]
  rfl

theorem writes_bool (value : Bool) : Writes (R := R) (Json.bool value) (.bool value) := by
  cases value <;> rfl

theorem writes_integer (value : Int) :
    Writes (R := R) (toString value) (.number (.integer value)) := rfl

theorem writes_nat (value : Nat) :
    Writes (R := R) (toString value) (.number (.integer value)) := rfl

theorem writes_null : Writes (R := R) "null" .null := rfl

theorem writes_option {α : Type} {text : α → String} {tree : α → Value (Number R)}
    (writes : ∀ value, Writes (text value) (tree value)) (value : Option α) :
    Writes (Json.option text value) (value.elim .null tree) := by
  cases value with
  | none => exact writes_null
  | some value => exact writes value

theorem writes_array {texts : List String} {items : List (Value (Number R))}
    (writes : List.Forall₂ Writes texts items) : Writes (Json.array texts) (.array items) := by
  have each : texts.map String.toList = printItems items := by
    induction writes with
    | nil => rfl
    | cons here _ ih => rw [List.map_cons, here, ih, printItems]
  unfold Writes Json.array
  rw [String.toList_append, String.toList_append, String.toList_intercalate, each,
    Lib.JsonText.print, ← intercalate_comma]
  rfl

/-- A member whose key is written with its escapes. -/
def WritesMember (text : String × String) (member : String × Value (Number R)) : Prop :=
  text.1.toList = member.1.toList.flatMap Lib.JsonText.escape ∧ Writes text.2 member.2

/-- A text that is written as it is. -/
def isVerbatim (text : String) : Bool :=
  text.toList.all fun c => decide (0x20 ≤ c.toNat ∧ c.toNat ≤ 0x7e ∧ c ≠ '"' ∧ c ≠ '\\')

theorem escape_of_isVerbatim {text : String} (plain : isVerbatim text = true) :
    text.toList.flatMap Lib.JsonText.escape = text.toList := by
  refine Lib.JsonText.flatMap_escape_of_plain fun c mem => ?_
  obtain ⟨low, high, quote, backslash⟩ := of_decide_eq_true (List.all_eq_true.mp plain c mem)
  have other {n : Nat} (different : c ≠ Char.ofNat n) : c.toNat ≠ n := fun same =>
    different (Lib.JsonText.eq_of_toNat same)
  unfold Lib.JsonText.escape
  dsimp only
  rw [if_neg (other quote), if_neg (other backslash), if_neg (by omega), if_neg (by omega),
    if_neg (by omega), if_neg (by omega), if_neg (by omega), if_pos ⟨low, high⟩]

theorem writes_member {key text : String} {v : Value (Number R)} (plain : isVerbatim key = true)
    (writes : Writes text v) :
    WritesMember (key, text) (key, v) := ⟨(escape_of_isVerbatim plain).symm, writes⟩

theorem writes_object {texts : List (String × String)} {members : List (String × Value (Number R))}
    (writes : List.Forall₂ WritesMember texts members) :
    Writes (Json.object texts) (.object members) := by
  have each : (texts.map fun text => "\"" ++ text.1 ++ "\":" ++ text.2).map String.toList =
      printMembers members := by
    induction writes with
    | nil => rfl
    | @cons text member _ _ here _ ih =>
        obtain ⟨key, value⟩ := here
        rw [List.map_cons, List.map_cons, ih, printMembers]
        congr 1
        rw [String.toList_append, String.toList_append, String.toList_append, key, value]
        simp [printText]
  show ("\x7b" ++ ",".intercalate (texts.map fun text => "\"" ++ text.1 ++ "\":" ++ text.2) ++
    "\x7d").toList = _
  rw [String.toList_append, String.toList_append, String.toList_intercalate, each,
    Lib.JsonText.print, ← intercalate_comma]
  rfl

end Texts

/-! ### Commands -/

section Commands

variable {R : Type}

namespace JsonValue

mutual

/-- A value as JSON has it. -/
def tree : JsonValue R → Value (Number R)
  | null => .null
  | bool value => .bool value
  | integer value => .number (.integer value)
  | number value => .number (.float value)
  | text value => .text value
  | array items => .array (treeItems items)
  | object members => .object (treeMembers members)

def treeItems : List (JsonValue R) → List (Value (Number R))
  | [] => []
  | item :: items => item.tree :: treeItems items

def treeMembers : List (String × JsonValue R) → List (String × Value (Number R))
  | [] => []
  | (key, value) :: members => (key, value.tree) :: treeMembers members

end

end JsonValue

variable [LabNumber R] [ReprText R]

theorem writes_number (value : R) : Writes (Json.number value) (.number (.float value)) := by
  show (LabNumber.repr value).toList = FloatText.repr value
  rw [ReprText.repr_eq, String.toList_ofList]

/-- A member whose key stands as it is. -/
def NamesMember (text : String × String) (member : String × Value (Number R)) : Prop :=
  text.1 = member.1 ∧ Writes text.2 member.2

mutual

theorem writes_json : (value : JsonValue R) → Writes value.json (canonical value.tree)
  | .null => writes_null
  | .bool value => writes_bool value
  | .integer value => writes_integer value
  | .number value => writes_number value
  | .text value => writes_string value
  | .array items => writes_array (writes_items items)
  | .object members => by
      have sorted : List.Forall₂ NamesMember (Json.sorted (JsonValue.jsonMembers members))
          ((Lib.JsonText.canonicalMembers (JsonValue.treeMembers members)).insertionSort fun a b =>
              a.1 ≤ b.1) := by
        refine Lib.JsonText.forall₂_insertionSort ?_ (names_members members)
        rintro a b a' b' ⟨key, -⟩ ⟨key', -⟩
        rw [key, key']
      refine writes_object (List.forall₂_map_left_iff.mpr (sorted.imp ?_))
      rintro ⟨key, text⟩ ⟨key', value⟩ ⟨rfl, writes⟩
      exact ⟨escaped_toList key, writes⟩

theorem writes_items : (items : List (JsonValue R)) →
    List.Forall₂ Writes (JsonValue.jsonItems items)
      (Lib.JsonText.canonicalItems (JsonValue.treeItems items))
  | [] => .nil
  | item :: items => .cons (writes_json item) (writes_items items)

theorem names_members : (members : List (String × JsonValue R)) →
    List.Forall₂ NamesMember (JsonValue.jsonMembers members)
      (Lib.JsonText.canonicalMembers (JsonValue.treeMembers members))
  | [] => .nil
  | (_, value) :: members => .cons ⟨rfl, writes_json value⟩ (names_members members)

end

namespace CommandRequest

/-- The parameters as JSON has them. -/
def parameterTree (request : CommandRequest R) : Value (Number R) :=
  (JsonValue.object request.parameters.rows).tree

def tree (request : CommandRequest R) : Value (Number R) :=
  .object [
    ("action", .text request.action),
    ("command_id", .text request.commandId.str),
    ("expected_control_revision", .number (.integer request.expectedControlRevision)),
    ("parameters", canonical request.parameterTree),
    ("target_id", request.targetId.elim .null fun id => .text id.str)]

/-- The identifiers are UUIDs, the keys of an object differ, and the numbers are finite. -/
structure WellFormed (request : CommandRequest R) : Prop where
  command_id : request.commandId < 2 ^ 128
  target_id : ∀ id ∈ request.targetId, id < 2 ^ 128
  parameters : request.parameterTree.WellFormed

/-- The same command, whatever the order of the members of its parameters. -/
structure Same (request request' : CommandRequest R) : Prop where
  action : request.action = request'.action
  command_id : request.commandId = request'.commandId
  expected_control_revision : request.expectedControlRevision = request'.expectedControlRevision
  parameters : Lib.JsonText.Same request.parameterTree request'.parameterTree
  target_id : request.targetId = request'.targetId

theorem writes (request : CommandRequest R) : Writes request.json request.tree :=
  writes_object
    (.cons (writes_member (by decide) (writes_string _))
    (.cons (writes_member (by decide) (writes_uuid _))
    (.cons (writes_member (by decide) (writes_nat _))
    (.cons (writes_member (by decide) (writes_json _))
    (.cons (writes_member (by decide) (writes_option writes_uuid _)) .nil)))))

theorem wellFormed_tree {request : CommandRequest R} (formed : request.WellFormed) :
    request.tree.WellFormed := by
  have differ : ["action", "command_id", "expected_control_revision", "parameters",
    "target_id"].Nodup := by decide
  refine .object differ ?_
  simp only [List.forall_mem_cons]
  refine ⟨.text _, .text _, .number (.integer _),
    Lib.JsonText.wellFormed_canonical formed.parameters, ?_, nofun⟩
  cases request.targetId with
  | none => exact .null
  | some id => exact .text _

/-- The canonical texts of two commands are equal where the commands are. -/
theorem json_eq_iff {request request' : CommandRequest R} (formed : request.WellFormed)
    (formed' : request'.WellFormed) : request.json = request'.json ↔ request.Same request' := by
  rw [(writes request).eq_iff (writes request') (wellFormed_tree formed) (wellFormed_tree formed')]
  constructor
  · intro same
    simp only [tree, Value.object.injEq, List.cons.injEq, Prod.mk.injEq, true_and, and_true,
      Value.text.injEq, Value.number.injEq, Number.integer.injEq, Int.natCast_inj] at same
    obtain ⟨action, command, revision, parameters, target⟩ := same
    refine ⟨action, UUID.str_inj formed.command_id formed'.command_id command, revision, ?_, ?_⟩
    · exact Lib.JsonText.same_of_canonical_eq parameters formed.parameters formed'.parameters
    · have ids := formed.target_id
      have ids' := formed'.target_id
      cases here : request.targetId <;> cases there : request'.targetId <;>
        simp only [here, there, Option.elim_none, Option.elim_some, reduceCtorEq,
          Value.text.injEq] at target
      · rfl
      · rw [UUID.str_inj (ids _ here) (ids' _ there) target]
  · intro same
    unfold tree
    rw [same.action, same.command_id, same.expected_control_revision, same.target_id,
      same.parameters.canonical_eq formed.parameters formed'.parameters]

/-- The payload hashes of two commands are equal where the commands are. -/
theorem payloadHash_eq_iff [Sha256Digest]
    (injective : Function.Injective (sha256 : String → Sha256))
    {request request' : CommandRequest R} (formed : request.WellFormed)
    (formed' : request'.WellFormed) :
    request.payloadHash = request'.payloadHash ↔ request.Same request' :=
  (injective.eq_iff).trans (json_eq_iff formed formed')

end CommandRequest

end Commands

/-! ### Definitions -/

section Definitions

variable {R : Type}

def PortRef.tree (ref : PortRef) : Value (Number R) :=
  .object [("asset_id", .text ref.assetId.str), ("port", .text ref.port.str)]

def positionTree (point : R × R × R) : Value (Number R) :=
  .array [.number (.float point.1), .number (.float point.2.1), .number (.float point.2.2)]

def ParamValue.tree : ParamValue R → Value (Number R)
  | .number value => .number (.float value)
  | .flag value => .bool value

def Sensor.tree (sensor : Sensor R) : Value (Number R) :=
  let (kind, target) := match sensor.target with
    | .pressure port => ("PRESSURE", port.tree)
    | .flow pipe => ("FLOW", .text pipe.str)
  .object [
    ("alarm_high", sensor.alarmHigh.elim .null fun value => .number (.float value)),
    ("alarm_low", sensor.alarmLow.elim .null fun value => .number (.float value)),
    ("kind", .text kind),
    ("noise_std", .number (.float sensor.noiseStd)),
    ("sensor_id", .text sensor.sensorId.str),
    ("target", target)]

variable [LabNumber R]

def Asset.parameterTree (asset : Asset R) : Value (Number R) :=
  .object (asset.parameters.rows.map fun (key, value) => (key, value.tree))

def Asset.tree (asset : Asset R) : Value (Number R) :=
  .object [
    ("asset_id", .text asset.assetId.str),
    ("parameters", canonical asset.parameterTree),
    ("position_m", positionTree asset.positionM),
    ("rotation_y_rad", .number (.float asset.rotationYRad)),
    ("type", .text asset.type.str)]

def Pipe.tree (pipe : Pipe R) : Value (Number R) :=
  .object [
    ("conductance_kg_s_pa", .number (.float pipe.conductanceKgSPa)),
    ("from_port", pipe.fromPort.tree),
    ("pipe_id", .text pipe.pipeId.str),
    ("to_port", pipe.toPort.tree),
    ("waypoints_m", .array (pipe.waypointsM.map positionTree))]

def LabDefinition.tree (definition : LabDefinition R) : Value (Number R) :=
  .object [
    ("assets", .array (definition.assets.map Asset.tree)),
    ("lab_id", .text definition.labId.str),
    ("name", .text definition.name),
    ("pipes", .array (definition.pipes.map Pipe.tree)),
    ("revision", .number (.integer definition.revision)),
    ("scene_revision", .text definition.sceneRevision),
    ("schema_version", .text definition.schemaVersion),
    ("sensors", .array (definition.sensors.map Sensor.tree))]

variable [ReprText R]

theorem PortRef.writes (ref : PortRef) : Writes (R := R) ref.json ref.tree :=
  writes_object
    (.cons (writes_member (by decide) (writes_uuid _))
    (.cons (writes_member (by decide) (writes_string _)) .nil))

theorem writes_position (point : R × R × R) : Writes (Json.position point) (positionTree point) :=
  writes_array (.cons (writes_number _) (.cons (writes_number _) (.cons (writes_number _) .nil)))

theorem ParamValue.writes (value : ParamValue R) : Writes (Json.paramValue value) value.tree := by
  cases value with
  | number value => exact writes_number value
  | flag value => exact writes_bool value

theorem Sensor.writes (sensor : Sensor R) : Writes sensor.json sensor.tree := by
  have target : ∃ kind text tree, Sensor.json sensor = Json.object [
      ("alarm_high", Json.option Json.number sensor.alarmHigh),
        ("alarm_low", Json.option Json.number sensor.alarmLow),
      ("kind", Json.string kind), ("noise_std", Json.number sensor.noiseStd),
      ("sensor_id", Json.uuid sensor.sensorId), ("target", text)] ∧ Writes text tree ∧
        sensor.tree = .object [
        ("alarm_high", sensor.alarmHigh.elim .null fun value => .number (.float value)),
        ("alarm_low", sensor.alarmLow.elim .null fun value => .number (.float value)),
        ("kind", .text kind), ("noise_std", .number (.float sensor.noiseStd)),
        ("sensor_id", .text sensor.sensorId.str), ("target", tree)] := by
    obtain ⟨id, target, noise, low, high⟩ := sensor
    cases target with
    | pressure port => exact ⟨_, _, _, rfl, port.writes, rfl⟩
    | flow pipe => exact ⟨_, _, _, rfl, writes_uuid pipe, rfl⟩
  obtain ⟨kind, text, tree, json, writes, same⟩ := target
  rw [json, same]
  exact writes_object
    (.cons (writes_member (by decide) (writes_option writes_number _))
    (.cons (writes_member (by decide) (writes_option writes_number _))
    (.cons (writes_member (by decide) (writes_string _))
    (.cons (writes_member (by decide) (writes_number _))
    (.cons (writes_member (by decide) (writes_uuid _))
    (.cons (writes_member (by decide) writes) .nil))))))

theorem writes_map {α : Type} {text : α → String} {tree : α → Value (Number R)}
    (writes : ∀ item, Writes (text item) (tree item)) (items : List α) :
    Writes (Json.array (items.map text)) (.array (items.map tree)) :=
  writes_array (List.forall₂_map_left_iff.mpr (List.forall₂_map_right_iff.mpr
    (List.forall₂_same.mpr fun item _ => writes item)))

theorem Pipe.writes (pipe : Pipe R) : Writes pipe.json pipe.tree :=
  writes_object
    (.cons (writes_member (by decide) (writes_number _))
    (.cons (writes_member (by decide) (PortRef.writes _))
    (.cons (writes_member (by decide) (writes_uuid _))
    (.cons (writes_member (by decide) (PortRef.writes _))
    (.cons (writes_member (by decide) (writes_map writes_position _)) .nil)))))

omit [ReprText R] in
/-- The parameters of an asset are those of its type. -/
theorem Asset.key_known (asset : Asset R) {key : String} (mem : key ∈ asset.parameters.keys) :
    key ∈ (DEFAULT_PARAMETERS_BY_ASSET_TYPE asset.type : List (String × ParamValue R)).map
        Prod.fst := by
  have valid := asset.valid
  unfold validateParameters at valid
  split at valid
  · rename_i none
    by_contra unknown
    have extra : key ∈ extraKeys asset.type asset.parameters :=
      (List.mem_insertionSort _).mpr (List.mem_filter.mpr ⟨mem, by simpa using unknown⟩)
    rw [none] at extra
    cases extra
  · cases valid

omit [ReprText R] in
theorem verbatim_of_known {type : AssetType} {key : String}
    (known : key ∈ (DEFAULT_PARAMETERS_BY_ASSET_TYPE type : List (String × ParamValue R)).map
        Prod.fst) :
    isVerbatim key = true := by
  have all : ((DEFAULT_PARAMETERS_BY_ASSET_TYPE type : List (String × ParamValue R)).map
      Prod.fst).all isVerbatim = true := by
    cases type <;>
      · simp only [DEFAULT_PARAMETERS_BY_ASSET_TYPE, List.map_cons, List.map_nil]
        decide
  exact List.all_eq_true.mp all key known

/-- A parameter and its member. -/
def WritesParameter (parameter : String × ParamValue R) (member : String × Value (Number R)) :
    Prop :=
  isVerbatim parameter.1 = true ∧ member = (parameter.1, parameter.2.tree)

omit [LabNumber R] [ReprText R] in
theorem canonical_paramTree (value : ParamValue R) : canonical value.tree = value.tree := by
  cases value <;> rfl

theorem Asset.writes_parameters (asset : Asset R) : Writes
    (Json.object ((asset.parameters.rows.insertionSort fun a b => a.1 ≤ b.1).map fun (key, value) =>
      (key, Json.paramValue value))) (canonical asset.parameterTree) := by
  have each : List.Forall₂ WritesParameter asset.parameters.rows
      (Lib.JsonText.canonicalMembers (asset.parameters.rows.map fun (key, value) =>
          (key, value.tree))) := by
    rw [Lib.JsonText.canonicalMembers_eq, List.map_map]
    refine List.forall₂_map_right_iff.mpr (List.forall₂_same.mpr ?_)
    rintro ⟨key, value⟩ mem
    refine ⟨verbatim_of_known (asset.key_known (List.mem_map_of_mem mem)), ?_⟩
    show (key, canonical value.tree) = (key, value.tree)
    rw [canonical_paramTree]
  have sorted :
    List.Forall₂ WritesParameter (asset.parameters.rows.insertionSort fun a b => a.1 ≤ b.1)
      ((Lib.JsonText.canonicalMembers (asset.parameters.rows.map fun (key, value) =>
        (key, value.tree))).insertionSort
        fun a b => a.1 ≤ b.1) :=
    Lib.JsonText.forall₂_insertionSort (by rintro a _ b _ ⟨-, rfl⟩ ⟨-, rfl⟩; rfl) each
  refine writes_object (List.forall₂_map_left_iff.mpr (sorted.imp ?_))
  rintro ⟨key, value⟩ _ ⟨verbatim, rfl⟩
  exact writes_member verbatim value.writes

theorem Asset.writes (asset : Asset R) : Writes asset.json asset.tree :=
  writes_object
    (.cons (writes_member (by decide) (writes_uuid _))
    (.cons (writes_member (by decide) asset.writes_parameters)
    (.cons (writes_member (by decide) (writes_position _))
    (.cons (writes_member (by decide) (writes_number _))
    (.cons (writes_member (by decide) (writes_string _)) .nil)))))

theorem LabDefinition.writes (definition : LabDefinition R) :
    Writes definition.json definition.tree :=
  writes_object
    (.cons (writes_member (by decide) (writes_map Asset.writes _))
    (.cons (writes_member (by decide) (writes_uuid _))
    (.cons (writes_member (by decide) (writes_string _))
    (.cons (writes_member (by decide) (writes_map Pipe.writes _))
    (.cons (writes_member (by decide) (writes_nat _))
    (.cons (writes_member (by decide) (writes_string _))
    (.cons (writes_member (by decide) (writes_string _))
    (.cons (writes_member (by decide) (writes_map Sensor.writes _)) .nil))))))))

/-! #### What a definition has -/

omit [LabNumber R] [ReprText R] in
theorem forall₂_of_map_eq {α β : Type} {f : α → β} {related : α → α → Prop} {items items' : List α}
    (same : items.map f = items'.map f) (own : ∀ a ∈ items, ∀ b ∈ items', f a = f b → related a b) :
    List.Forall₂ related items items' := by
  induction items generalizing items' with
  | nil =>
      rw [List.map_eq_nil_iff.mp same.symm]
      exact .nil
  | cons item items ih =>
      cases items' with
      | nil => cases same
      | cons item' items' =>
          obtain ⟨here, later⟩ := List.cons_eq_cons.mp same
          exact .cons (own _ List.mem_cons_self _ List.mem_cons_self here)
            (ih later fun a mem b mem' =>
              own a (List.mem_cons_of_mem _ mem) b (List.mem_cons_of_mem _ mem'))

omit [LabNumber R] [ReprText R] in
theorem map_eq_of_forall₂ {α β : Type} {f : α → β} {related : α → α → Prop} {items items' : List α}
    (each : List.Forall₂ related items items')
    (own : ∀ a ∈ items, ∀ b ∈ items', related a b → f a = f b) :
    items.map f = items'.map f := by
  induction each with
  | nil => rfl
  | cons here _ ih =>
      rw [List.map_cons, List.map_cons, own _ List.mem_cons_self _ List.mem_cons_self here,
        ih fun a mem b mem' => own a (List.mem_cons_of_mem _ mem) b (List.mem_cons_of_mem _ mem')]

/-- Finite coordinates. -/
def FinitePoint (point : R × R × R) : Prop :=
  LabNumber.isFinite point.1 = true ∧ LabNumber.isFinite point.2.1 = true ∧
    LabNumber.isFinite point.2.2 = true

structure Asset.WellFormed (asset : Asset R) : Prop where
  asset_id : asset.assetId < 2 ^ 128
  position_m : FinitePoint asset.positionM
  rotation_y_rad : LabNumber.isFinite asset.rotationYRad = true
  parameters : ∀ key value, (key, .number value) ∈ asset.parameters.rows →
    LabNumber.isFinite value = true

structure Pipe.WellFormed (pipe : Pipe R) : Prop where
  pipe_id : pipe.pipeId < 2 ^ 128
  from_port : pipe.fromPort.assetId < 2 ^ 128
  to_port : pipe.toPort.assetId < 2 ^ 128
  conductance_kg_s_pa : LabNumber.isFinite pipe.conductanceKgSPa = true
  waypoints_m : ∀ point ∈ pipe.waypointsM, FinitePoint point

def SensorTarget.WellFormed : SensorTarget → Prop
  | .pressure port => port.assetId < 2 ^ 128
  | .flow pipe => pipe < 2 ^ 128

structure Sensor.WellFormed (sensor : Sensor R) : Prop where
  sensor_id : sensor.sensorId < 2 ^ 128
  target : sensor.target.WellFormed
  noise_std : LabNumber.isFinite sensor.noiseStd = true
  alarm_low : ∀ value ∈ sensor.alarmLow, LabNumber.isFinite value = true
  alarm_high : ∀ value ∈ sensor.alarmHigh, LabNumber.isFinite value = true

/-- The identifiers are UUIDs and the numbers finite, as the validators of the parts have it. -/
structure LabDefinition.WellFormed (definition : LabDefinition R) : Prop where
  lab_id : definition.labId < 2 ^ 128
  assets : ∀ asset ∈ definition.assets, asset.WellFormed
  pipes : ∀ pipe ∈ definition.pipes, pipe.WellFormed
  sensors : ∀ sensor ∈ definition.sensors, sensor.WellFormed

/-- The same asset, whatever the order of its parameters. -/
structure Asset.Same (asset asset' : Asset R) : Prop where
  asset_id : asset.assetId = asset'.assetId
  type : asset.type = asset'.type
  position_m : asset.positionM = asset'.positionM
  rotation_y_rad : asset.rotationYRad = asset'.rotationYRad
  parameters : ∀ key, asset.parameters.get? key = asset'.parameters.get? key

/-- The same definition, whatever the order of parameters. -/
structure LabDefinition.Same (definition definition' : LabDefinition R) : Prop where
  schema_version : definition.schemaVersion = definition'.schemaVersion
  lab_id : definition.labId = definition'.labId
  revision : definition.revision = definition'.revision
  name : definition.name = definition'.name
  assets : List.Forall₂ Asset.Same definition.assets definition'.assets
  pipes : definition.pipes = definition'.pipes
  sensors : definition.sensors = definition'.sensors
  scene_revision : definition.sceneRevision = definition'.sceneRevision

omit [ReprText R] [LabNumber R] in
theorem PortRef.wellFormed_tree [FloatText R] (ref : PortRef) :
    (ref.tree : Value (Number R)).WellFormed := by
  have differ : ["asset_id", "port"].Nodup := by decide
  refine .object differ ?_
  simp only [List.forall_mem_cons]
  exact ⟨.text _, .text _, nofun⟩

theorem wellFormed_float {value : R} (finite : LabNumber.isFinite value = true) :
    (Value.number (.float value) : Value (Number R)).WellFormed :=
  .number (.float ((ReprText.finite_iff value).mpr finite))

theorem wellFormed_option {value : Option R}
    (finite : ∀ value' ∈ value, LabNumber.isFinite value' = true) :
    (value.elim .null fun value => .number (.float value) : Value (Number R)).WellFormed := by
  cases value with
  | none => exact .null
  | some value => exact wellFormed_float (finite value rfl)

theorem wellFormed_position {point : R × R × R} (finite : FinitePoint point) :
    (positionTree point).WellFormed := by
  refine .array ?_
  simp only [List.forall_mem_cons]
  exact ⟨wellFormed_float finite.1, wellFormed_float finite.2.1, wellFormed_float finite.2.2, nofun⟩

theorem Asset.wellFormed_parameters {asset : Asset R} (formed : asset.WellFormed) :
    asset.parameterTree.WellFormed := by
  have keys : (asset.parameters.rows.map fun (key, value) => (key, value.tree)).map Prod.fst =
      asset.parameters.rows.map Prod.fst := by
    rw [List.map_map]
    rfl
  refine .object (by rw [keys]; exact asset.parameters.keys_nodup) ?_
  rintro member mem
  obtain ⟨⟨key, value⟩, own, rfl⟩ := List.mem_map.mp mem
  cases value with
  | number value => exact wellFormed_float (formed.parameters key value own)
  | flag value => exact .bool value

theorem Asset.wellFormed_tree {asset : Asset R} (formed : asset.WellFormed) :
    asset.tree.WellFormed := by
  have differ : ["asset_id", "parameters", "position_m", "rotation_y_rad", "type"].Nodup := by
    decide
  refine .object differ ?_
  simp only [List.forall_mem_cons]
  exact ⟨.text _, Lib.JsonText.wellFormed_canonical (wellFormed_parameters formed),
    wellFormed_position formed.position_m, wellFormed_float formed.rotation_y_rad, .text _, nofun⟩

theorem Pipe.wellFormed_tree {pipe : Pipe R} (formed : pipe.WellFormed) : pipe.tree.WellFormed := by
  have differ : ["conductance_kg_s_pa", "from_port", "pipe_id", "to_port",
    "waypoints_m"].Nodup := by decide
  refine .object differ ?_
  simp only [List.forall_mem_cons]
  refine ⟨wellFormed_float formed.conductance_kg_s_pa, PortRef.wellFormed_tree _, .text _,
    PortRef.wellFormed_tree _, .array fun point mem => ?_, nofun⟩
  obtain ⟨point, own, rfl⟩ := List.mem_map.mp mem
  exact wellFormed_position (formed.waypoints_m point own)

theorem Sensor.wellFormed_tree {sensor : Sensor R} (formed : sensor.WellFormed) :
    sensor.tree.WellFormed := by
  have differ : ["alarm_high", "alarm_low", "kind", "noise_std", "sensor_id", "target"].Nodup := by
    decide
  have target {kind : String} {tree : Value (Number R)} (own : tree.WellFormed) : (Value.object [
      ("alarm_high", sensor.alarmHigh.elim .null fun value => .number (.float value)),
      ("alarm_low", sensor.alarmLow.elim .null fun value => .number (.float value)),
      ("kind", .text kind), ("noise_std", .number (.float sensor.noiseStd)),
      ("sensor_id", .text sensor.sensorId.str), ("target", tree)]).WellFormed := by
    refine .object differ ?_
    simp only [List.forall_mem_cons]
    exact ⟨wellFormed_option formed.alarm_high, wellFormed_option formed.alarm_low, .text _,
      wellFormed_float formed.noise_std, .text _, own, nofun⟩
  obtain ⟨id, measured, noise, low, high⟩ := sensor
  cases measured with
  | pressure port => exact target (PortRef.wellFormed_tree port)
  | flow pipe => exact target (.text _)

theorem LabDefinition.wellFormed_tree {definition : LabDefinition R}
    (formed : definition.WellFormed) :
    definition.tree.WellFormed := by
  have differ : ["assets", "lab_id", "name", "pipes", "revision", "scene_revision",
    "schema_version", "sensors"].Nodup := by decide
  refine .object differ ?_
  simp only [List.forall_mem_cons]
  refine ⟨.array fun tree mem => ?_, .text _, .text _, .array fun tree mem => ?_,
    .number (.integer _), .text _, .text _, .array fun tree mem => ?_, nofun⟩
  · obtain ⟨asset, own, rfl⟩ := List.mem_map.mp mem
    exact Asset.wellFormed_tree (formed.assets asset own)
  · obtain ⟨pipe, own, rfl⟩ := List.mem_map.mp mem
    exact Pipe.wellFormed_tree (formed.pipes pipe own)
  · obtain ⟨sensor, own, rfl⟩ := List.mem_map.mp mem
    exact Sensor.wellFormed_tree (formed.sensors sensor own)

omit [LabNumber R] [ReprText R] in
theorem PortName.str_inj {port port' : PortName} (same : port.str = port'.str) : port = port' := by
  cases port <;> cases port' <;> first
    | rfl
    | exact absurd same (by decide)

omit [LabNumber R] [ReprText R] in
theorem AssetType.str_inj {type type' : AssetType} (same : type.str = type'.str) :
    type = type' := by
  cases type <;> cases type' <;> first
    | rfl
    | exact absurd same (by decide)

omit [LabNumber R] [ReprText R] in
theorem PortRef.tree_inj {ref ref' : PortRef} (small : ref.assetId < 2 ^ 128)
    (small' : ref'.assetId < 2 ^ 128)
    (same : (ref.tree : Value (Number R)) = ref'.tree) : ref = ref' := by
  obtain ⟨id, port⟩ := ref
  obtain ⟨id', port'⟩ := ref'
  simp only [tree, Value.object.injEq, List.cons.injEq, Prod.mk.injEq, true_and, and_true,
    Value.text.injEq] at same
  cases UUID.str_inj small small' same.1
  cases PortName.str_inj same.2
  rfl

omit [LabNumber R] [ReprText R] in
theorem positionTree_inj {point point' : R × R × R}
    (same : positionTree point = positionTree point') :
    point = point' := by
  simp only [positionTree, Value.array.injEq, List.cons.injEq, and_true, Value.number.injEq,
    Number.float.injEq] at same
  exact Prod.ext same.1 (Prod.ext same.2.1 same.2.2)

omit [LabNumber R] [ReprText R] in
theorem option_inj {value value' : Option R}
    (same : (value.elim .null fun value => .number (.float value) : Value (Number R)) =
      value'.elim .null fun value => .number (.float value)) : value = value' := by
  cases value <;> cases value' <;> cases same <;> rfl

omit [ReprText R] in
theorem Pipe.tree_inj {pipe pipe' : Pipe R} (formed : pipe.WellFormed) (formed' : pipe'.WellFormed)
    (same : pipe.tree = pipe'.tree) : pipe = pipe' := by
  simp only [tree, Value.object.injEq, List.cons.injEq, Prod.mk.injEq, true_and, and_true,
    Value.number.injEq, Number.float.injEq, Value.text.injEq, Value.array.injEq] at same
  obtain ⟨conductance, «from», id, «to», waypoints⟩ := same
  have id := UUID.str_inj formed.pipe_id formed'.pipe_id id
  have «from» := PortRef.tree_inj formed.from_port formed'.from_port «from»
  have «to» := PortRef.tree_inj formed.to_port formed'.to_port «to»
  have waypoints := List.map_injective_iff.mpr (fun _ _ => positionTree_inj) waypoints
  cases pipe
  cases pipe'
  cases id
  cases «from»
  cases «to»
  cases conductance
  cases waypoints
  rfl

omit [LabNumber R] [ReprText R] in
theorem Sensor.target_inj {sensor sensor' : Sensor R} (formed : sensor.target.WellFormed)
    (formed' : sensor'.target.WellFormed) (same : sensor.tree = sensor'.tree) :
    sensor.target = sensor'.target := by
  obtain ⟨_, measured, _, _, _⟩ := sensor
  obtain ⟨_, measured', _, _, _⟩ := sensor'
  cases measured <;> cases measured' <;>
    simp only [tree, Value.object.injEq, List.cons.injEq, Prod.mk.injEq, true_and, and_true,
      Value.text.injEq, String.reduceEq, false_and, and_false] at same
  · exact congrArg SensorTarget.pressure (PortRef.tree_inj formed formed' same.2.2.2.2)
  · exact congrArg SensorTarget.flow (UUID.str_inj formed formed' same.2.2.2.2)

omit [ReprText R] in
theorem Sensor.tree_inj {sensor sensor' : Sensor R} (formed : sensor.WellFormed)
    (formed' : sensor'.WellFormed)
    (same : sensor.tree = sensor'.tree) : sensor = sensor' := by
  have target := Sensor.target_inj formed.target formed'.target same
  simp only [tree, Value.object.injEq, List.cons.injEq, Prod.mk.injEq, true_and, and_true,
    Value.number.injEq, Number.float.injEq, Value.text.injEq] at same
  obtain ⟨high, low, -, noise, id, -⟩ := same
  have id := UUID.str_inj formed.sensor_id formed'.sensor_id id
  have low := option_inj low
  have high := option_inj high
  cases sensor
  cases sensor'
  cases target
  cases id
  cases low
  cases high
  cases noise
  rfl

omit [ReprText R] in
theorem Asset.mem_parameterTree {asset : Asset R} {key : String} {tree : Value (Number R)} :
    (key, tree) ∈ asset.parameters.rows.map (fun (key, value) => (key, value.tree)) ↔
      ∃ value, asset.parameters.get? key = some value ∧ value.tree = tree := by
  simp only [List.mem_map, Prod.mk.injEq, Prod.exists, Lib.Table.get?_eq_some_iff]
  constructor
  · rintro ⟨_, value, mem, rfl, same⟩
    exact ⟨value, mem, same⟩
  · rintro ⟨value, mem, same⟩
    exact ⟨_, value, mem, rfl, same⟩

theorem Asset.get?_of_canonical {asset asset' : Asset R} (formed : asset.WellFormed)
    (formed' : asset'.WellFormed)
    (same : canonical asset.parameterTree = canonical asset'.parameterTree) {key : String}
    {value : ParamValue R}
    (found : asset.parameters.get? key = some value) : asset'.parameters.get? key = some value := by
  have alike := Lib.JsonText.same_of_canonical_eq same (wellFormed_parameters formed)
    (wellFormed_parameters formed')
  cases alike with
  | object keys each =>
      have mem := mem_parameterTree.mpr ⟨value, found, rfl⟩
      obtain ⟨tree, mem'⟩ :=
        Lib.JsonText.exists_value.mp ((keys key).mp (Lib.JsonText.exists_value.mpr ⟨_, mem⟩))
      obtain ⟨value', found', rfl⟩ := mem_parameterTree.mp mem'
      have leaf := each key _ _ mem mem'
      rw [found']
      cases value <;> cases value' <;> cases leaf <;> rfl

theorem Asset.canonical_parameters_iff {asset asset' : Asset R} (formed : asset.WellFormed)
    (formed' : asset'.WellFormed) : canonical asset.parameterTree = canonical asset'.parameterTree ↔
      ∀ key, asset.parameters.get? key = asset'.parameters.get? key := by
  constructor
  · intro same key
    exact Option.ext fun value =>
      ⟨get?_of_canonical formed formed' same, get?_of_canonical formed' formed same.symm⟩
  · intro same
    refine Lib.JsonText.Same.canonical_eq (.object (fun key => ?_) ?_)
      (wellFormed_parameters formed)
      (wellFormed_parameters formed')
    · rw [Lib.JsonText.exists_value, Lib.JsonText.exists_value]
      simp only [mem_parameterTree, same key]
    · intro key tree tree' mem mem'
      obtain ⟨value, found, rfl⟩ := mem_parameterTree.mp mem
      obtain ⟨value', found', rfl⟩ := mem_parameterTree.mp mem'
      rw [same key, found'] at found
      cases found
      cases value
      · exact .number _
      · exact .bool _

theorem Asset.same_iff {asset asset' : Asset R} (formed : asset.WellFormed)
    (formed' : asset'.WellFormed) :
    asset.tree = asset'.tree ↔ asset.Same asset' := by
  unfold tree
  simp only [Value.object.injEq, List.cons.injEq, Prod.mk.injEq, true_and, and_true,
    Value.number.injEq,
    Number.float.injEq, Value.text.injEq, canonical_parameters_iff formed formed']
  constructor
  · rintro ⟨id, parameters, position, rotation, type⟩
    exact ⟨UUID.str_inj formed.asset_id formed'.asset_id id, AssetType.str_inj type,
      positionTree_inj position, rotation, parameters⟩
  · rintro ⟨id, type, position, rotation, parameters⟩
    rw [id, type, position]
    exact ⟨rfl, parameters, rfl, rotation, rfl⟩

/-- The canonical texts of two definitions are equal where the definitions are. -/
theorem LabDefinition.json_eq_iff {definition definition' : LabDefinition R}
    (formed : definition.WellFormed) (formed' : definition'.WellFormed) :
    definition.json = definition'.json ↔ definition.Same definition' := by
  rw [definition.writes.eq_iff definition'.writes (wellFormed_tree formed)
    (wellFormed_tree formed')]
  unfold tree
  simp only [Value.object.injEq, List.cons.injEq, Prod.mk.injEq, true_and, and_true,
    Value.number.injEq, Number.integer.injEq, Int.natCast_inj, Value.text.injEq, Value.array.injEq]
  constructor
  · rintro ⟨assets, id, name, pipes, revision, scene, schema, sensors⟩
    have pipes : List.Forall₂ Eq _ _ := forall₂_of_map_eq pipes fun pipe mem pipe' mem' =>
      Pipe.tree_inj (formed.pipes pipe mem) (formed'.pipes pipe' mem')
    have sensors : List.Forall₂ Eq _ _ := forall₂_of_map_eq sensors fun sensor mem sensor' mem' =>
      Sensor.tree_inj (formed.sensors sensor mem) (formed'.sensors sensor' mem')
    rw [List.forall₂_eq_eq_eq] at pipes sensors
    exact ⟨schema, UUID.str_inj formed.lab_id formed'.lab_id id, revision, name,
      forall₂_of_map_eq assets fun asset mem asset' mem' =>
        (Asset.same_iff (formed.assets asset mem) (formed'.assets asset' mem')).mp,
      pipes, sensors, scene⟩
  · rintro ⟨schema, id, revision, name, assets, pipes, sensors, scene⟩
    refine ⟨?_, by rw [id], name, by rw [pipes], revision, scene, schema, by rw [sensors]⟩
    exact map_eq_of_forall₂ assets fun asset mem asset' mem' =>
      (Asset.same_iff (formed.assets asset mem) (formed'.assets asset' mem')).mpr

/-- The digests of two definitions are equal where the definitions are. -/
theorem digest_eq_iff [Sha256Digest] (injective : Function.Injective (sha256 : String → Sha256))
    {definition definition' : LabDefinition R} (formed : definition.WellFormed)
    (formed' : definition'.WellFormed) :
    computeDefinitionDigest definition = computeDefinitionDigest definition' ↔
      definition.Same definition' :=
  (injective.eq_iff).trans (LabDefinition.json_eq_iff formed formed')

end Definitions

/-! ### Integral doubles -/

/-- The doubles that are integers. -/
instance : LabNumber Int where
  decidableLT := inferInstance
  decidableLE := inferInstance
  num q := q.floor
  isFinite _ := true
  repr a := toString a ++ ".0"
  solve _ _ _ := none
  sum := List.sum
  boxMuller _ _ := 0

theorem reverse_repr (a : Int) :
    ((toString a).toList ++ ['.', '0']).reverse = '0' :: '.' :: (toString a).toList.reverse := by
  rw [List.reverse_append]
  rfl

instance : ReprText Int where
  Finite _ := True
  repr a := (toString a).toList ++ ['.', '0']
  read cs := match cs.reverse with
    | '0' :: '.' :: digits => Lib.JsonText.readInt digits.reverse
    | _ => none
  read_repr {a} _ := by
    rw [reverse_repr]
    show Lib.JsonText.readInt (toString a).toList.reverse.reverse = some a
    rw [List.reverse_reverse, Lib.JsonText.readInt_toString]
  isNumberChar_of_mem {a} _ c mem := by
    rcases List.mem_append.mp mem with digit | rest
    · rcases Lib.JsonText.chars_toString digit with rfl | digit
      · rfl
      · exact Lib.JsonText.isNumberChar_of_isDigit digit
    · simp only [List.mem_cons, List.not_mem_nil, or_false] at rest
      rcases rest with rfl | rfl <;> rfl
  marked _ := List.any_eq_true.mpr ⟨'.', by simp, rfl⟩
  repr_eq a := by
    rw [String.ofList_append, String.ofList_toList]
    rfl
  finite_iff _ := iff_of_true trivial rfl

end IndustrialReliability
