import Mathlib.Data.List.Basic

/-!
# Compact JSON texts

What two encoders of JSON have in common: how numbers and words, strings, lists and objects stand next to each other when
nothing stands between them. How a number or a string is written is left to the encoder.

* `JsonAtom` : the text of a number or a word, in which no sign of the syntax occurs;
* `JsonBody` : what stands between the quotes of a string, in which no quote is met;
* `JsonText.text` : the text of a tree of them;
* `JsonText.text_injective` : the tree can be read off the text.
-/

namespace HyperTerm.Lib

/-- The signs that begin or end something. -/
def isSyntax (c : Char) : Bool := ['"', ',', ':', '[', ']', '\x7b', '\x7d'].contains c

structure JsonAtom where
  text : List Char
  ne_nil : text ≠ []
  plain : ∀ c ∈ text, isSyntax c = false
  deriving DecidableEq

/-- A quote stands only behind a backslash, and so does a backslash that begins nothing. -/
inductive QuotesEscaped : List Char → Prop where
  | nil : QuotesEscaped []
  | plain {c : Char} {chars : List Char} (hquote : c ≠ '"') (hbackslash : c ≠ '\\') (h : QuotesEscaped chars) :
      QuotesEscaped (c :: chars)
  | escaped (c : Char) {chars : List Char} (h : QuotesEscaped chars) : QuotesEscaped ('\\' :: c :: chars)

theorem QuotesEscaped.append {chars chars' : List Char} (h : QuotesEscaped chars) (h' : QuotesEscaped chars') :
    QuotesEscaped (chars ++ chars') := by
  induction h with
  | nil => exact h'
  | plain hquote hbackslash _ ih => exact ih.plain hquote hbackslash
  | escaped c _ ih => exact ih.escaped c

theorem quotesEscaped_flatMap {α : Type} {f : α → List Char} (h : ∀ a, QuotesEscaped (f a)) (l : List α) :
    QuotesEscaped (l.flatMap f) := by
  induction l with
  | nil => exact .nil
  | cons a l ih =>
      rw [List.flatMap_cons]
      exact (h a).append ih

structure JsonBody where
  text : List Char
  escaped : QuotesEscaped text

inductive JsonText where
  | atom (a : JsonAtom)
  | string (body : JsonBody)
  | array (items : List JsonText)
  | object (members : List (JsonBody × JsonText))

namespace JsonText

/-- What holds of a text if it holds of the texts in it, holds of every text. -/
@[elab_as_elim]
theorem induction {P : JsonText → Prop} (atom : ∀ a, P (atom a)) (string : ∀ body, P (string body))
    (array : ∀ items, (∀ t ∈ items, P t) → P (array items))
    (object : ∀ members : List (JsonBody × JsonText), (∀ member ∈ members, P member.2) → P (object members))
    (t : JsonText) : P t :=
  @JsonText.rec P (fun items => ∀ t ∈ items, P t) (fun members => ∀ member ∈ members, P member.2)
    (fun member => P member.2) atom string array object (List.forall_mem_nil _)
    (fun _ _ h ih => List.forall_mem_cons.mpr ⟨h, ih⟩) (List.forall_mem_nil _)
    (fun _ _ h ih => List.forall_mem_cons.mpr ⟨h, ih⟩) (fun _ _ h => h) t

end JsonText

def JsonBody.quoted (body : JsonBody) : List Char := '"' :: (body.text ++ ['"'])

mutual

def JsonText.text : JsonText → List Char
  | .atom a => a.text
  | .string body => body.quoted
  | .array [] => ['[', ']']
  | .array (item :: items) => '[' :: (item.text ++ itemsText items)
  | .object [] => ['\x7b', '\x7d']
  | .object ((key, value) :: members) => '\x7b' :: (key.quoted ++ ':' :: (value.text ++ membersText members))

/-- The items after the first one, and the bracket after them. -/
def itemsText : List JsonText → List Char
  | [] => [']']
  | item :: items => ',' :: (item.text ++ itemsText items)

/-- The members after the first one, and the brace after them. -/
def membersText : List (JsonBody × JsonText) → List Char
  | [] => ['\x7d']
  | (key, value) :: members => ',' :: (key.quoted ++ ':' :: (value.text ++ membersText members))

end

/-! ## Atoms and strings are read off a text -/

/-- Nothing follows, or a sign of the syntax. -/
def Ends (rest : List Char) : Prop := ∀ c ∈ rest.head?, isSyntax c = true

theorem ends_nil : Ends [] := by
  intro c hc
  cases hc

theorem ends_cons {c : Char} (h : isSyntax c = true) (rest : List Char) : Ends (c :: rest) := by
  intro d hd
  rw [List.head?_cons, Option.mem_some_iff] at hd
  rw [← hd]
  exact h

theorem cons_append_inj {c c' : Char} {chars chars' rest rest' : List Char}
    (h : c :: chars ++ rest = c' :: chars' ++ rest') : c = c' ∧ chars ++ rest = chars' ++ rest' :=
  List.cons_eq_cons.mp h

theorem plain_append_inj {chars chars' rest rest' : List Char} (hplain : ∀ c ∈ chars, isSyntax c = false)
    (hplain' : ∀ c ∈ chars', isSyntax c = false) (hrest : Ends rest) (hrest' : Ends rest')
    (h : chars ++ rest = chars' ++ rest') : chars = chars' ∧ rest = rest' := by
  induction chars generalizing chars' with
  | nil =>
      cases chars' with
      | nil => exact ⟨rfl, h⟩
      | cons c chars' =>
          rw [List.nil_append, List.cons_append] at h
          have hsign := hrest c (by rw [h]; rfl)
          rw [hplain' c List.mem_cons_self] at hsign
          cases hsign
  | cons c chars ih =>
      cases chars' with
      | nil =>
          rw [List.nil_append, List.cons_append] at h
          have hsign := hrest' c (by rw [← h]; rfl)
          rw [hplain c List.mem_cons_self] at hsign
          cases hsign
      | cons c' chars' =>
          rw [List.cons_append, List.cons_append] at h
          obtain ⟨rfl, htail⟩ := List.cons_eq_cons.mp h
          obtain ⟨rfl, hrests⟩ := ih (fun d hd => hplain d (List.mem_cons_of_mem _ hd))
            (fun d hd => hplain' d (List.mem_cons_of_mem _ hd)) htail
          exact ⟨rfl, hrests⟩

theorem QuotesEscaped.append_inj {chars chars' rest rest' : List Char} (hchars : QuotesEscaped chars)
    (hchars' : QuotesEscaped chars') (h : chars ++ '"' :: rest = chars' ++ '"' :: rest') :
    chars = chars' ∧ rest = rest' := by
  induction hchars generalizing chars' with
  | nil =>
      cases hchars' with
      | nil => exact ⟨rfl, (List.cons_eq_cons.mp h).2⟩
      | plain hquote _ _ => exact absurd (List.cons_eq_cons.mp h).1.symm hquote
      | escaped c _ => exact absurd (List.cons_eq_cons.mp h).1 (by decide)
  | plain hquote hbackslash _ ih =>
      cases hchars' with
      | nil => exact absurd (List.cons_eq_cons.mp h).1 hquote
      | plain _ _ htail =>
          obtain ⟨rfl, hchars⟩ := cons_append_inj h
          obtain ⟨rfl, hrests⟩ := ih htail hchars
          exact ⟨rfl, hrests⟩
      | escaped c _ => exact absurd (List.cons_eq_cons.mp h).1 hbackslash
  | escaped c _ ih =>
      cases hchars' with
      | nil => exact absurd (List.cons_eq_cons.mp h).1 (by decide)
      | plain _ hbackslash _ => exact absurd (List.cons_eq_cons.mp h).1.symm hbackslash
      | escaped c' htail =>
          obtain ⟨-, h⟩ := List.cons_eq_cons.mp h
          obtain ⟨rfl, hchars⟩ := cons_append_inj h
          obtain ⟨rfl, hrests⟩ := ih htail hchars
          exact ⟨rfl, hrests⟩

theorem JsonBody.quoted_append_inj {body body' : JsonBody} {rest rest' : List Char}
    (h : body.quoted ++ rest = body'.quoted ++ rest') : body = body' ∧ rest = rest' := by
  obtain ⟨chars, hchars⟩ := body
  obtain ⟨chars', hchars'⟩ := body'
  unfold JsonBody.quoted at h
  dsimp only at h
  rw [List.cons_append, List.cons_append, List.append_assoc, List.append_assoc] at h
  obtain ⟨rfl, hrests⟩ := hchars.append_inj hchars' (List.cons_eq_cons.mp h).2
  exact ⟨rfl, hrests⟩

theorem JsonAtom.append_inj {a a' : JsonAtom} {rest rest' : List Char} (hrest : Ends rest) (hrest' : Ends rest')
    (h : a.text ++ rest = a'.text ++ rest') : a = a' ∧ rest = rest' := by
  obtain ⟨chars, hne, hplain⟩ := a
  obtain ⟨chars', hne', hplain'⟩ := a'
  obtain ⟨rfl, hrests⟩ := plain_append_inj hplain hplain' hrest hrest' h
  exact ⟨rfl, hrests⟩

/-! ## Trees are read off a text -/

/-- How a text begins: this tells what kind of text it is. -/
def JsonText.opening : JsonText → Option Char
  | .atom _ => none
  | .string _ => some '"'
  | .array _ => some '['
  | .object _ => some '\x7b'

theorem JsonText.text_eq_cons (t : JsonText) :
    ∃ c chars, t.text = c :: chars ∧ (if isSyntax c then some c else none) = t.opening := by
  cases t with
  | atom a =>
      obtain ⟨c, chars, heq⟩ := List.exists_cons_of_ne_nil a.ne_nil
      refine ⟨c, chars, heq, ?_⟩
      rw [a.plain c (by rw [heq]; exact List.mem_cons_self)]
      rfl
  | string body => exact ⟨'"', _, rfl, rfl⟩
  | array items =>
      cases items with
      | nil => exact ⟨'[', _, rfl, rfl⟩
      | cons item items => exact ⟨'[', _, rfl, rfl⟩
  | object members =>
      cases members with
      | nil => exact ⟨'\x7b', _, rfl, rfl⟩
      | cons member members => exact ⟨'\x7b', _, rfl, rfl⟩

/-- No text begins with a comma or a closing sign. -/
theorem JsonText.opening_ne {c : Char} (hc : c = ',' ∨ c = ']' ∨ c = '\x7d') (t : JsonText) {rest chars : List Char} :
    t.text ++ rest ≠ c :: chars := by
  intro h
  obtain ⟨d, tail, heq, hopening⟩ := t.text_eq_cons
  rw [heq, List.cons_append] at h
  rw [(List.cons_eq_cons.mp h).1] at hopening
  rcases hc with rfl | rfl | rfl <;> cases t <;> cases hopening

theorem JsonText.opening_eq {t t' : JsonText} {rest rest' : List Char} (h : t.text ++ rest = t'.text ++ rest') :
    t.opening = t'.opening := by
  obtain ⟨c, chars, heq, hopening⟩ := t.text_eq_cons
  obtain ⟨c', chars', heq', hopening'⟩ := t'.text_eq_cons
  rw [heq, heq', List.cons_append, List.cons_append] at h
  rw [← hopening, ← hopening', (List.cons_eq_cons.mp h).1]

/-- The text is told apart from what follows it. -/
def JsonText.Read (t : JsonText) : Prop :=
  ∀ {t' : JsonText} {rest rest' : List Char}, Ends rest → Ends rest' → t.text ++ rest = t'.text ++ rest' →
    t = t' ∧ rest = rest'

theorem ends_itemsText (items : List JsonText) (rest : List Char) : Ends (itemsText items ++ rest) := by
  cases items <;> exact ends_cons rfl _

theorem ends_membersText (members : List (JsonBody × JsonText)) (rest : List Char) :
    Ends (membersText members ++ rest) := by
  cases members <;> exact ends_cons rfl _

theorem itemsText_append_inj {items items' : List JsonText} {rest rest' : List Char} (hitems : ∀ t ∈ items, t.Read)
    (h : itemsText items ++ rest = itemsText items' ++ rest') : items = items' ∧ rest = rest' := by
  induction items generalizing items' with
  | nil =>
      cases items' with
      | nil => exact ⟨rfl, (List.cons_eq_cons.mp h).2⟩
      | cons item' items' => exact absurd (List.cons_eq_cons.mp h).1 (by decide)
  | cons item items ih =>
      cases items' with
      | nil => exact absurd (List.cons_eq_cons.mp h).1 (by decide)
      | cons item' items' =>
          have htail := (cons_append_inj h).2
          rw [List.append_assoc, List.append_assoc] at htail
          obtain ⟨rfl, hmore⟩ :=
            hitems item List.mem_cons_self (ends_itemsText items rest) (ends_itemsText items' rest') htail
          obtain ⟨rfl, hrests⟩ := ih (fun t ht => hitems t (List.mem_cons_of_mem _ ht)) hmore
          exact ⟨rfl, hrests⟩

/-- A member is told apart from the members after it. -/
theorem member_append_inj {key key' : JsonBody} {value value' : JsonText} {members members' : List (JsonBody × JsonText)}
    {rest rest' : List Char} (hvalue : value.Read)
    (h : key.quoted ++ ':' :: (value.text ++ membersText members) ++ rest =
      key'.quoted ++ ':' :: (value'.text ++ membersText members') ++ rest') :
    key = key' ∧ value = value' ∧ membersText members ++ rest = membersText members' ++ rest' := by
  rw [List.append_assoc, List.append_assoc] at h
  obtain ⟨rfl, hvalues⟩ := JsonBody.quoted_append_inj h
  have htail := (cons_append_inj hvalues).2
  rw [List.append_assoc, List.append_assoc] at htail
  obtain ⟨rfl, hrests⟩ := hvalue (ends_membersText members rest) (ends_membersText members' rest') htail
  exact ⟨rfl, rfl, hrests⟩

theorem membersText_append_inj {members members' : List (JsonBody × JsonText)} {rest rest' : List Char}
    (hmembers : ∀ member ∈ members, member.2.Read) (h : membersText members ++ rest = membersText members' ++ rest') :
    members = members' ∧ rest = rest' := by
  induction members generalizing members' with
  | nil =>
      cases members' with
      | nil => exact ⟨rfl, (List.cons_eq_cons.mp h).2⟩
      | cons member' members' => exact absurd (List.cons_eq_cons.mp h).1 (by decide)
  | cons member members ih =>
      cases members' with
      | nil => exact absurd (List.cons_eq_cons.mp h).1 (by decide)
      | cons member' members' =>
          obtain ⟨key, value⟩ := member
          obtain ⟨key', value'⟩ := member'
          obtain ⟨rfl, rfl, hmore⟩ :=
            member_append_inj (hmembers _ List.mem_cons_self) (cons_append_inj h).2
          obtain ⟨rfl, hrests⟩ := ih (fun member hmember => hmembers member (List.mem_cons_of_mem _ hmember)) hmore
          exact ⟨rfl, hrests⟩

theorem JsonText.read (t : JsonText) : t.Read := by
  induction t using JsonText.induction with
  | atom a =>
      intro t' rest rest' hrest hrest' h
      have hopening := JsonText.opening_eq h
      cases t' with
      | atom a' =>
          obtain ⟨rfl, hrests⟩ := JsonAtom.append_inj hrest hrest' h
          exact ⟨rfl, hrests⟩
      | string body' => cases hopening
      | array items' => cases hopening
      | object members' => cases hopening
  | string body =>
      intro t' rest rest' hrest hrest' h
      have hopening := JsonText.opening_eq h
      cases t' with
      | atom a' => cases hopening
      | string body' =>
          obtain ⟨rfl, hrests⟩ := JsonBody.quoted_append_inj h
          exact ⟨rfl, hrests⟩
      | array items' => cases hopening
      | object members' => cases hopening
  | array items ih =>
      intro t' rest rest' hrest hrest' h
      have hopening := JsonText.opening_eq h
      cases t' with
      | atom a' => cases hopening
      | string body' => cases hopening
      | array items' =>
          cases items with
          | nil =>
              cases items' with
              | nil => exact ⟨rfl, (List.cons_eq_cons.mp (List.cons_eq_cons.mp h).2).2⟩
              | cons item' items' =>
                  have htail := (cons_append_inj h).2
                  rw [List.append_assoc] at htail
                  exact absurd htail.symm (item'.opening_ne (.inr (.inl rfl)))
          | cons item items =>
              cases items' with
              | nil =>
                  have htail := (cons_append_inj h).2
                  rw [List.append_assoc] at htail
                  exact absurd htail (item.opening_ne (.inr (.inl rfl)))
              | cons item' items' =>
                  -- With a comma in front it is the text of the items after some first one.
                  have hitems : itemsText (item :: items) ++ rest = itemsText (item' :: items') ++ rest' :=
                    congrArg (List.cons ',') (cons_append_inj h).2
                  obtain ⟨heq, hrests⟩ := itemsText_append_inj ih hitems
                  exact ⟨congrArg JsonText.array heq, hrests⟩
      | object members' => cases hopening
  | object members ih =>
      intro t' rest rest' hrest hrest' h
      have hopening := JsonText.opening_eq h
      cases t' with
      | atom a' => cases hopening
      | string body' => cases hopening
      | array items' => cases hopening
      | object members' =>
          cases members with
          | nil =>
              cases members' with
              | nil => exact ⟨rfl, (List.cons_eq_cons.mp (List.cons_eq_cons.mp h).2).2⟩
              | cons member' members' => exact absurd (List.cons_eq_cons.mp (List.cons_eq_cons.mp h).2).1 (by decide)
          | cons member members =>
              cases members' with
              | nil => exact absurd (List.cons_eq_cons.mp (List.cons_eq_cons.mp h).2).1 (by decide)
              | cons member' members' =>
                  have hmembers : membersText (member :: members) ++ rest = membersText (member' :: members') ++ rest' :=
                    congrArg (List.cons ',') (cons_append_inj h).2
                  obtain ⟨heq, hrests⟩ := membersText_append_inj ih hmembers
                  exact ⟨congrArg JsonText.object heq, hrests⟩

/-- **A compact text determines what it is the text of.** -/
theorem JsonText.text_injective : Function.Injective JsonText.text := by
  intro t t' h
  exact (t.read ends_nil ends_nil (by rw [h])).1

end HyperTerm.Lib
