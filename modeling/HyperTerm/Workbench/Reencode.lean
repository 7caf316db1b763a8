import HyperTerm.Lib.Keyed
import HyperTerm.Workbench.Stringify

/-!
# JSON that is read and written again

`JSON.parse` reads what `serde_json` wrote, and `JSON.stringify` writes what was read. An object lists its keys in an
order of its own then: the array indices among them come first, ascending, and the others follow as they were created.
A number is written as the double that it was read as.

* `JsValue.parsed` : what is read of a value of `serde_json`;
* `JsValue.stringify` : what is written of it;
* `stringify_parsed_iff` : when that is what `serde_json` had written.

What is written of a number that was read is a parameter.
-/

namespace HyperTerm.Workbench
open HyperTerm.Lib HyperTerm.Protocol

/-- An object lists its own keys in the order in which JavaScript does. -/
inductive JsValue where
  | null
  | bool (b : Bool)
  | number (n : JsNumber)
  | string (s : JsString)
  | array (items : List JsValue)
  | object (members : List (JsString × JsValue))

/-! ## The order of keys -/

/-- The number that a key would be, if it were one. -/
def keyNumber (key : JsString) : Nat := key.foldl (fun n unit => 10 * n + (unit.toNat - 48)) 0

/-- An array index comes in the place of its number, and every other key after all of them. -/
def keyRank (key : JsString) : Nat :=
  if utf16 (Nat.toDigits 10 (keyNumber key)) = key ∧ keyNumber key < 4294967295 then keyNumber key else 4294967295

/-- `OrdinaryOwnPropertyKeys`. -/
def ownOrder {α : Type} (members : List (JsString × α)) : List (JsString × α) :=
  sortByKey (fun member => keyRank member.1) members

/-- The keys are in the order in which an object lists them. -/
def KeysInOrder (keys : List String) : Prop :=
  keys.Pairwise fun key key' => keyRank (.ofText key) ≤ keyRank (.ofText key')

instance (keys : List String) : Decidable (KeysInOrder keys) := inferInstanceAs (Decidable (List.Pairwise _ _))

/-- The keys are names: none of them begins with a digit. -/
inductive NameKeys : List String → Prop
  | nil : NameKeys []
  | cons {c : Char} {chars : List Char} {keys : List String} (hc : c.isDigit = false) (h : NameKeys keys) :
      NameKeys (String.ofList (c :: chars) :: keys)

/-- A name is no array index. -/
theorem keyRank_name {c : Char} (hc : c.isDigit = false) (chars : List Char) :
    keyRank (.ofText (String.ofList (c :: chars))) = 4294967295 := by
  refine if_neg fun h => ?_
  have hdigits : Nat.toDigits 10 (keyNumber (.ofText (String.ofList (c :: chars)))) = c :: chars := by
    refine utf16_injective (h.1.trans ?_)
    unfold JsString.ofText
    rw [String.toList_ofList]
  have hdigit := isDigit_digits c (hdigits ▸ List.mem_cons_self)
  rw [hc] at hdigit
  cases hdigit

theorem NameKeys.keyRank_eq {keys : List String} (h : NameKeys keys) :
    ∀ key ∈ keys, keyRank (.ofText key) = 4294967295 := by
  induction h with
  | nil => exact fun _ hkey => absurd hkey List.not_mem_nil
  | cons hc _ ih => exact List.forall_mem_cons.mpr ⟨keyRank_name hc _, ih⟩

theorem NameKeys.keysInOrder {keys : List String} (h : NameKeys keys) : KeysInOrder keys := by
  refine List.pairwise_of_forall_mem_list fun key hkey key' hkey' => ?_
  rw [h.keyRank_eq key hkey, h.keyRank_eq key' hkey']

/-! ## Reading and writing -/

section

variable (reprint : Number → JsNumber)

mutual

/-- What `JSON.parse` makes of the text of a value. No object of `serde_json` has two members of one key. -/
def JsValue.parsed : Value → JsValue
  | .null => .null
  | .bool b => .bool b
  | .number n => .number (reprint n)
  | .string s => .string (.ofText s)
  | .array items => .array (parsedItems items)
  | .object members => .object (ownOrder (parsedMembers members))

def parsedItems : List Value → List JsValue
  | [] => []
  | v :: items => .parsed v :: parsedItems items

def parsedMembers : List (String × Value) → List (JsString × JsValue)
  | [] => []
  | (key, v) :: members => (.ofText key, .parsed v) :: parsedMembers members

end

/-- The numbers of a value are written as they were, and the keys of its objects are in order. -/
inductive Reencoded : Value → Prop where
  | null : Reencoded .null
  | bool (b : Bool) : Reencoded (.bool b)
  | number {n : Number} (h : reprint n = n.atom) : Reencoded (.number n)
  | string (s : String) : Reencoded (.string s)
  | array {items : List Value} (h : ∀ v ∈ items, Reencoded v) : Reencoded (.array items)
  | object {members : List (String × Value)} (hkeys : KeysInOrder (members.map Prod.fst))
      (h : ∀ member ∈ members, Reencoded member.2) : Reencoded (.object members)

end

mutual

def JsValue.toText : JsValue → JsonText
  | .null => .atom nullAtom
  | .bool b => .atom (boolAtom b)
  | .number n => .atom n
  | .string s => .string s.body
  | .array items => .array (jsItemTexts items)
  | .object members => .object (jsMemberTexts members)

def jsItemTexts : List JsValue → List JsonText
  | [] => []
  | v :: items => v.toText :: jsItemTexts items

def jsMemberTexts : List (JsString × JsValue) → List (JsonBody × JsonText)
  | [] => []
  | (key, v) :: members => (key.body, v.toText) :: jsMemberTexts members

end

/-- `JSON.stringify`, whose result has no surrogate on its own in it. -/
def JsValue.stringify (v : JsValue) : List Char := v.toText.text

variable {reprint : Number → JsNumber}

theorem parsedItems_eq_map (items : List Value) : parsedItems reprint items = items.map (JsValue.parsed reprint) := by
  induction items with
  | nil => rfl
  | cons v items ih => rw [parsedItems, ih, List.map_cons]

theorem jsItemTexts_parsedItems (items : List Value) :
    jsItemTexts (parsedItems reprint items) = items.map fun v => (JsValue.parsed reprint v).toText := by
  induction items with
  | nil => rfl
  | cons v items ih => rw [parsedItems, jsItemTexts, ih, List.map_cons]

theorem jsMemberTexts_eq_map (members : List (JsString × JsValue)) :
    jsMemberTexts members = members.map fun member => (member.1.body, member.2.toText) := by
  induction members with
  | nil => rfl
  | cons member members ih => rw [jsMemberTexts, ih, List.map_cons]

theorem parsedMembers_eq_map (members : List (String × Value)) :
    parsedMembers reprint members = members.map fun member => (.ofText member.1, .parsed reprint member.2) := by
  induction members with
  | nil => rfl
  | cons member members ih => rw [parsedMembers, ih, List.map_cons]

theorem reencoded_array_iff {items : List Value} :
    Reencoded reprint (.array items) ↔ ∀ v ∈ items, Reencoded reprint v := by
  constructor
  · intro h
    cases h with
    | array h => exact h
  · exact .array

theorem reencoded_object_iff {members : List (String × Value)} :
    Reencoded reprint (.object members) ↔
      KeysInOrder (members.map Prod.fst) ∧ ∀ member ∈ members, Reencoded reprint member.2 := by
  constructor
  · intro h
    cases h with
    | object hkeys h => exact ⟨hkeys, h⟩
  · exact fun h => .object h.1 h.2

theorem reencoded_of_lookup {members : List (String × Value)} {key : String} {v : Value}
    (h : Reencoded reprint (.object members)) (hv : members.lookup key = some v) : Reencoded reprint v := by
  obtain ⟨before, after, hmembers, -⟩ := List.lookup_eq_some_iff.mp hv
  refine (reencoded_object_iff.mp h).2 (key, v) ?_
  rw [hmembers]
  exact List.mem_append_right before List.mem_cons_self

theorem reencoded_string_iff (s : String) : Reencoded reprint (.string s) ↔ True := iff_true_intro (.string s)

theorem reencoded_bool_iff (b : Bool) : Reencoded reprint (.bool b) ↔ True := iff_true_intro (.bool b)

theorem reencoded_number_iff {n : Number} : Reencoded reprint (.number n) ↔ reprint n = n.atom := by
  constructor
  · intro h
    cases h with
    | number h => exact h
  · exact .number

/-! ## What is written again -/

/-- Keys that are in order stay where they are. -/
theorem ownOrder_eq {α : Type} {members : List (JsString × α)}
    (h : (members.map Prod.fst).Pairwise fun key key' => keyRank key ≤ keyRank key') : ownOrder members = members := by
  rw [List.pairwise_map] at h
  exact h.insertionSort_eq

theorem pairwise_of_ownOrder {α : Type} {members : List (JsString × α)}
    (h : (ownOrder members).map Prod.fst = members.map Prod.fst) :
    (members.map Prod.fst).Pairwise fun key key' => keyRank key ≤ keyRank key' := by
  rw [← h, List.pairwise_map]
  exact sortByKey_pairwise _ members

theorem keysInOrder_iff {members : List (String × Value)} :
    KeysInOrder (members.map Prod.fst) ↔
      ((parsedMembers reprint members).map Prod.fst).Pairwise fun key key' => keyRank key ≤ keyRank key' := by
  unfold KeysInOrder
  rw [parsedMembers_eq_map, List.map_map, List.pairwise_map, List.pairwise_map]
  rfl

theorem toText_parsed_iff (v : Value) : (JsValue.parsed reprint v).toText = v.toText ↔ Reencoded reprint v := by
  induction v using Value.induction with
  | null => exact iff_of_true rfl .null
  | bool b => exact iff_of_true rfl (.bool b)
  | number n =>
      constructor
      · exact fun h => .number (JsonText.atom.inj h)
      · intro h
        cases h with
        | number h => exact congrArg JsonText.atom h
  | string s => exact iff_of_true (congrArg JsonText.string (body_ofText s)) (.string s)
  | array items ih =>
      have htexts : (JsValue.parsed reprint (.array items)).toText = (Value.array items).toText ↔
          ∀ v ∈ items, (JsValue.parsed reprint v).toText = v.toText := by
        rw [JsValue.parsed, JsValue.toText, Value.toText, JsonText.array.injEq, jsItemTexts_parsedItems,
          itemTexts_eq_map, List.map_inj_left]
      rw [htexts]
      constructor
      · exact fun h => .array fun v hv => (ih v hv).mp (h v hv)
      · intro h
        cases h with
        | array h => exact fun v hv => (ih v hv).mpr (h v hv)
  | object members ih =>
      have htexts : (JsValue.parsed reprint (.object members)).toText = (Value.object members).toText ↔
          (ownOrder (parsedMembers reprint members)).map (fun member => (member.1.body, member.2.toText)) =
            members.map fun member => (jsonBody member.1, member.2.toText) := by
        rw [JsValue.parsed, JsValue.toText, Value.toText, JsonText.object.injEq, jsMemberTexts_eq_map,
          memberTexts_eq_map]
      have hplaced (horder : ownOrder (parsedMembers reprint members) = parsedMembers reprint members) :
          (JsValue.parsed reprint (.object members)).toText = (Value.object members).toText ↔
            ∀ member ∈ members, (JsValue.parsed reprint member.2).toText = member.2.toText := by
        rw [htexts, horder, parsedMembers_eq_map, List.map_map, List.map_inj_left]
        refine forall₂_congr fun member _ => ?_
        rw [Function.comp_apply, Prod.mk.injEq, body_ofText]
        exact ⟨fun h => h.2, fun h => ⟨rfl, h⟩⟩
      constructor
      · intro h
        -- The keys alone tell that nothing changed its place.
        have hbodies := congrArg (List.map Prod.fst) (htexts.mp h)
        rw [List.map_map, List.map_map] at hbodies
        have hkeys : (ownOrder (parsedMembers reprint members)).map Prod.fst =
            (parsedMembers reprint members).map Prod.fst := by
          refine List.map_inj_right (fun _ _ hsame => body_injective hsame) |>.mp ?_
          rw [List.map_map, List.map_map, parsedMembers_eq_map, List.map_map]
          rw [parsedMembers_eq_map] at hbodies
          refine hbodies.trans (List.map_congr_left fun member _ => ?_)
          exact (body_ofText member.1).symm
        have hpairwise := pairwise_of_ownOrder hkeys
        have hvalues := (hplaced (ownOrder_eq hpairwise)).mp h
        exact .object (keysInOrder_iff.mpr hpairwise) fun member hmember => (ih member hmember).mp (hvalues member hmember)
      · intro h
        cases h with
        | object hkeys hvalues =>
            refine (hplaced (ownOrder_eq (keysInOrder_iff.mp hkeys))).mpr fun member hmember => ?_
            exact (ih member hmember).mpr (hvalues member hmember)

/-- **What `JSON.stringify` writes again.** -/
theorem stringify_parsed_iff (v : Value) : (JsValue.parsed reprint v).stringify = v.compact ↔ Reencoded reprint v := by
  rw [← toText_parsed_iff]
  exact JsonText.text_injective.eq_iff

end HyperTerm.Workbench
