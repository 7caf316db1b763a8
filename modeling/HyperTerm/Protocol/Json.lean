import HyperTerm.Protocol.Ids
import Mathlib.Data.List.Infix

/-!
# JSON values

* `Value` : the values of `serde_json`, whose objects list their members as they were inserted;
* `Value.size` : how many bytes `serde_json::to_vec` writes for a value;
* `Value.tokens` : a value as a list of tokens, by which there are countably many.
-/

namespace HyperTerm.Protocol

/-- `serde_json::Number`: a `u64`, a negative `i64` (the number `-(n + 1)`), or a finite `f64`, which is given by the
shortest decimal text that is read back as it. -/
inductive Number where
  | unsigned (n : Fin (2 ^ 64))
  | negative (n : Fin (2 ^ 63))
  | float (text : String)
  deriving DecidableEq, Countable

namespace Number

def isI64 : Number → Bool
  | unsigned n => n.val < 2 ^ 63
  | negative _ => true
  | float _ => false

def isU64 : Number → Bool
  | unsigned _ => true
  | _ => false

end Number

inductive Value where
  | null
  | bool (b : Bool)
  | number (n : Number)
  | string (s : String)
  | array (items : List Value)
  | object (members : List (String × Value))

namespace Value

/-- What holds of a value if it holds of the values in it, holds of every value. -/
@[elab_as_elim]
theorem induction {P : Value → Prop} (null : P null) (bool : ∀ b, P (bool b)) (number : ∀ n, P (number n))
    (string : ∀ s, P (string s)) (array : ∀ items, (∀ v ∈ items, P v) → P (array items))
    (object : ∀ members : List (String × Value), (∀ member ∈ members, P member.2) → P (object members)) (v : Value) :
    P v :=
  @Value.rec P (fun items => ∀ v ∈ items, P v) (fun members => ∀ member ∈ members, P member.2) (fun member => P member.2)
    null bool number string array object (List.forall_mem_nil _) (fun _ _ h ih => List.forall_mem_cons.mpr ⟨h, ih⟩)
    (List.forall_mem_nil _) (fun _ _ h ih => List.forall_mem_cons.mpr ⟨h, ih⟩) (fun _ _ h => h) v

/-- `Value::get` of a key. -/
def get (key : String) : Value → Option Value
  | object members => members.lookup key
  | _ => none

def asStr : Value → Option String
  | string s => some s
  | _ => none

def asBool : Value → Option Bool
  | bool b => some b
  | _ => none

def isObject : Value → Bool
  | object _ => true
  | _ => false

def isBoolean : Value → Bool
  | bool _ => true
  | _ => false

def isNull : Value → Bool
  | null => true
  | _ => false

def isU64 : Value → Bool
  | number n => n.isU64
  | _ => false

instance neZero_u64 : NeZero (2 ^ 64) := ⟨by decide⟩

instance neZero_i63 : NeZero (2 ^ 63) := ⟨by decide⟩

/-- `Value::from` of a `u64`. -/
def ofU64 (n : Fin (2 ^ 64)) : Value := number (.unsigned n)

end Value

/-! ## Sizes -/

/-- The bytes of a character in a JSON string. -/
def escapedSize (c : Char) : Nat :=
  if c = '"' ∨ c = '\\' then 2
  else if c.toNat ∈ [8, 9, 10, 12, 13] then 2
  else if c.toNat < 32 then 6
  else c.utf8Size

def jsonStringSize (s : String) : Nat := 2 + (s.toList.map escapedSize).sum

def decimalSize (n : Nat) : Nat := (Nat.toDigits 10 n).length

def Number.size : Number → Nat
  | unsigned n => decimalSize n
  | negative n => 1 + decimalSize (n + 1)
  | float text => text.utf8ByteSize

mutual

def Value.size : Value → Nat
  | .null => 4
  | .bool b => if b then 4 else 5
  | .number n => n.size
  | .string s => jsonStringSize s
  | .array items => 2 + (items.length - 1) + itemsSize items
  | .object members => 2 + (members.length - 1) + membersSize members

def itemsSize : List Value → Nat
  | [] => 0
  | v :: items => v.size + itemsSize items

def membersSize : List (String × Value) → Nat
  | [] => 0
  | (key, v) :: members => jsonStringSize key + 1 + v.size + membersSize members

end

example : (Value.object [("id", .ofU64 7), ("ok", .bool true)]).size = 18 := by decide

theorem decimalSize_le {n k : Nat} (hk : 0 < k) (h : n < 10 ^ k) : decimalSize n ≤ k :=
  (Nat.length_toDigits_le_iff (by decide) hk).mpr h

theorem escapedSize_le (c : Char) : escapedSize c ≤ 6 * c.utf8Size := by
  have hpos := c.utf8Size_pos
  unfold escapedSize
  split_ifs <;> omega

theorem escapedSize_le_six (c : Char) : escapedSize c ≤ 6 := by
  have hfour := c.utf8Size_le_four
  unfold escapedSize
  split_ifs <;> omega

/-- The size of a text that is given by its characters, without a decoding of its bytes. -/
theorem jsonStringSize_ofList_le (chars : List Char) : jsonStringSize (String.ofList chars) ≤ 2 + 6 * chars.length := by
  have hsum : (chars.map escapedSize).sum ≤ 6 * chars.length := by
    induction chars with
    | nil => exact Nat.le_refl _
    | cons c chars ih =>
        have hc := escapedSize_le_six c
        rw [List.map_cons, List.sum_cons, List.length_cons]
        omega
  unfold jsonStringSize
  rw [String.toList_ofList]
  omega

theorem jsonStringSize_le_of_eq {s : String} {chars : List Char} (h : s = String.ofList chars) :
    jsonStringSize s ≤ 2 + 6 * chars.length := h ▸ jsonStringSize_ofList_le chars

theorem jsonStringSize_append_le {s t : String} {m n : Nat} (hs : jsonStringSize s ≤ m) (ht : jsonStringSize t ≤ n) :
    jsonStringSize (s ++ t) ≤ m + n := by
  unfold jsonStringSize at hs ht ⊢
  rw [String.toList_append, List.map_append, List.sum_append]
  omega

theorem size_string_le {s : String} {n : Nat} (h : jsonStringSize s ≤ n) : (Value.string s).size ≤ n := h

theorem size_array_le {items : List Value} {n : Nat} (h : itemsSize items ≤ n) :
    (Value.array items).size ≤ 2 + items.length + n := by
  unfold Value.size
  omega

theorem size_object_le {members : List (String × Value)} {n : Nat} (h : membersSize members ≤ n) :
    (Value.object members).size ≤ 2 + members.length + n := by
  unfold Value.size
  omega

theorem itemsSize_cons_le {v : Value} {items : List Value} {m n : Nat} (hv : v.size ≤ m) (h : itemsSize items ≤ n) :
    itemsSize (v :: items) ≤ m + n := Nat.add_le_add hv h

theorem membersSize_cons_le {key : String} {v : Value} {members : List (String × Value)} {k m n : Nat}
    (hkey : jsonStringSize key ≤ k) (hv : v.size ≤ m) (h : membersSize members ≤ n) :
    membersSize ((key, v) :: members) ≤ k + 1 + m + n :=
  Nat.add_le_add (Nat.add_le_add (Nat.add_le_add_right hkey 1) hv) h

/-! ## Tokens -/

inductive Token where
  | null
  | bool (b : Bool)
  | number (n : Number)
  | string (s : String)
  | openArray
  | openObject
  | close
  deriving Countable

mutual

def Value.tokens : Value → List Token
  | .null => [.null]
  | .bool b => [.bool b]
  | .number n => [.number n]
  | .string s => [.string s]
  | .array items => .openArray :: itemsTokens items
  | .object members => .openObject :: membersTokens members

def itemsTokens : List Value → List Token
  | [] => [.close]
  | v :: items => v.tokens ++ itemsTokens items

def membersTokens : List (String × Value) → List Token
  | [] => [.close]
  | (key, v) :: members => .string key :: (v.tokens ++ membersTokens members)

end

theorem Value.tokens_ne_close (v : Value) (rest rest' : List Token) : v.tokens ++ rest ≠ .close :: rest' := by
  cases v <;> exact fun h => nomatch List.head_eq_of_cons_eq h

mutual

/-- The tokens of a value tell where it ends. -/
theorem Value.tokens_inj (v w : Value) (rest rest' : List Token) (h : v.tokens ++ rest = w.tokens ++ rest') :
    v = w ∧ rest = rest' := by
  cases v <;> cases w <;> simp only [Value.tokens, List.cons_append, List.nil_append, List.cons.injEq,
    Token.bool.injEq, Token.number.injEq, Token.string.injEq, reduceCtorEq, false_and, true_and] at h
  · exact ⟨rfl, h⟩
  · exact ⟨congrArg _ h.1, h.2⟩
  · exact ⟨congrArg _ h.1, h.2⟩
  · exact ⟨congrArg _ h.1, h.2⟩
  · obtain ⟨rfl, hrest⟩ := itemsTokens_inj _ _ _ _ h
    exact ⟨rfl, hrest⟩
  · obtain ⟨rfl, hrest⟩ := membersTokens_inj _ _ _ _ h
    exact ⟨rfl, hrest⟩

theorem itemsTokens_inj (items items' : List Value) (rest rest' : List Token)
    (h : itemsTokens items ++ rest = itemsTokens items' ++ rest') : items = items' ∧ rest = rest' := by
  match items, items' with
  | [], [] => exact ⟨rfl, List.tail_eq_of_cons_eq h⟩
  | [], w :: items' =>
      rw [itemsTokens, itemsTokens, List.append_assoc] at h
      exact absurd h.symm (w.tokens_ne_close _ _)
  | v :: items, [] =>
      rw [itemsTokens, itemsTokens, List.append_assoc] at h
      exact absurd h (v.tokens_ne_close _ _)
  | v :: items, w :: items' =>
      rw [itemsTokens, itemsTokens, List.append_assoc, List.append_assoc] at h
      obtain ⟨rfl, hitems⟩ := Value.tokens_inj v w _ _ h
      obtain ⟨rfl, hrest⟩ := itemsTokens_inj items items' _ _ hitems
      exact ⟨rfl, hrest⟩

theorem membersTokens_inj (members members' : List (String × Value)) (rest rest' : List Token)
    (h : membersTokens members ++ rest = membersTokens members' ++ rest') : members = members' ∧ rest = rest' := by
  match members, members' with
  | [], [] => exact ⟨rfl, List.tail_eq_of_cons_eq h⟩
  | [], (key, w) :: members' => exact nomatch List.head_eq_of_cons_eq h
  | (key, v) :: members, [] => exact nomatch List.head_eq_of_cons_eq h
  | (key, v) :: members, (key', w) :: members' =>
      rw [membersTokens, membersTokens, List.cons_append, List.cons_append, List.append_assoc,
        List.append_assoc] at h
      obtain ⟨hkey, hvalues⟩ := List.cons.inj h
      obtain rfl := Token.string.inj hkey
      obtain ⟨rfl, hmembers⟩ := Value.tokens_inj v w _ _ hvalues
      obtain ⟨rfl, hrest⟩ := membersTokens_inj members members' _ _ hmembers
      exact ⟨rfl, hrest⟩

end

theorem Value.tokens_injective : Function.Injective Value.tokens := fun v w h =>
  (Value.tokens_inj v w [] [] (by rw [h])).1

instance countableValue : Countable Value := Value.tokens_injective.countable

end HyperTerm.Protocol
