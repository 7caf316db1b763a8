import HyperTerm.Lib.Fields
import Mathlib.Algebra.Group.Nat.Defs

/-!
# The blobs of a source revision

The files of a commit are read from Git in two steps: its tree is listed, and the listed blobs are written one after the
other to one output, each behind a header with its size.

* `parseTree`, `TreeEntry` : the listing, whose object ids are hexadecimal;
* `parseBatchBlobs` : the blobs, by a cursor into the output;
* `IsRecord`, `Consists` : the header, bytes and newline of one blob, and an output that consists of them;
* `parseBatchBlobs_exact` : the outputs that are accepted, and what is read from them.
-/

namespace HyperTerm.Sandbox.Worktree
open HyperTerm.Lib

def maxSourceFiles : Nat := 50000

def maxSourceFileBytes : Nat := 8 * 1024 * 1024

inductive SourceError where
  | unsupportedTreeEntry (entry : List Char)
  | unsafeSourcePath (path : List Char)
  | tooManyFiles
  | sourceFileTooLarge (path : List Char)
  deriving DecidableEq

def inRange (low high c : Char) : Bool := low.toNat ≤ c.toNat ∧ c.toNat ≤ high.toNat

/-- Hexadecimal digits in lower case, as many as a SHA-1 or a SHA-256 has. -/
structure IsObjectId (id : List Char) : Prop where
  length : id.length = 40 ∨ id.length = 64
  digits : ∀ c ∈ id, inRange '0' '9' c ∨ inRange 'a' 'f' c

structure TreeEntry where
  mode : Nat
  objectId : { id : List Char // IsObjectId id }
  path : List Char

/-! ## The listing -/

def isAsciiHexdigit (c : Char) : Bool := inRange '0' '9' c || inRange 'a' 'f' c || inRange 'A' 'F' c

theorem inRange_toLower {c : Char} (h : isAsciiHexdigit c = true) :
    inRange '0' '9' c.toLower ∨ inRange 'a' 'f' c.toLower := by
  simp only [isAsciiHexdigit, inRange, Bool.or_eq_true, decide_eq_true_eq] at h ⊢
  rw [toNat_toLower]
  change ((48 ≤ c.toNat ∧ c.toNat ≤ 57) ∨ 97 ≤ c.toNat ∧ c.toNat ≤ 102) ∨ 65 ≤ c.toNat ∧ c.toNat ≤ 70 at h
  show (48 ≤ _ ∧ _ ≤ 57) ∨ 97 ≤ _ ∧ _ ≤ 102
  split_ifs <;> omega

theorem isObjectId_toLower {id : List Char} (h : (id.length = 40 ∨ id.length = 64) ∧ id.all isAsciiHexdigit) :
    IsObjectId (id.map Char.toLower) where
  length := by rw [List.length_map]; exact h.1
  digits c hc := by
    obtain ⟨c', hc', rfl⟩ := List.mem_map.1 hc
    exact inRange_toLower (List.all_eq_true.1 h.2 c' hc')

/-- `u32::from_str_radix(text, 8)`. -/
def parseOctal (text : List Char) : Option Nat :=
  let digits := if text.head? = some '+' then text.tail else text
  if digits ≠ [] ∧ digits.all (inRange '0' '7') ∧ Nat.ofDigitChars 8 digits 0 < 2 ^ 32 then
    some (Nat.ofDigitChars 8 digits 0)
  else none

def unsupported (entry : String) : SourceError := .unsupportedTreeEntry entry.toList

/-- One record of the listing, as in the loop of `parse_tree`. -/
def treeEntry (record : List UInt8) : Except (Stop SourceError) TreeEntry := do
  let tab ← okOr (record.findIdx? fun byte => byte == 9) (.error (unsupported "missing path"))
  let header ← okOr (fromUtf8 (← slice record 0 tab)) (.error (unsupported "non-UTF-8 header"))
  let path ← okOr (fromUtf8 (← slice record (tab + 1) record.length)) (.error (.unsafeSourcePath "non-UTF-8 path".toList))
  let fields := splitAsciiWhitespace header
  let modeText ← okOr fields[0]? (.error (unsupported "missing mode"))
  let kind ← okOr fields[1]? (.error (unsupported "missing kind"))
  let objectId ← okOr fields[2]? (.error (unsupported "missing object id"))
  refuse (3 < fields.length ∨ kind ≠ "blob".toList) (.unsupportedTreeEntry header)
  let mode ← okOr (parseOctal modeText) (.error (.unsupportedTreeEntry header))
  if h : (objectId.length = 40 ∨ objectId.length = 64) ∧ objectId.all isAsciiHexdigit then
    .ok ⟨mode, ⟨objectId.map Char.toLower, isObjectId_toLower h⟩, path⟩
  else .error (.error (.unsupportedTreeEntry header))

def treeEntries : Nat → List (List UInt8) → Except (Stop SourceError) (List TreeEntry)
  | _, [] => .ok []
  | count, record :: records => do
      refuse (count = maxSourceFiles) .tooManyFiles
      let entry ← treeEntry record
      let entries ← treeEntries (count + 1) records
      return entry :: entries

def parseTree (bytes : List UInt8) : Except (Stop SourceError) (List TreeEntry) :=
  treeEntries 0 ((bytes.splitOnP fun byte => byte == 0).filter fun record => !record.isEmpty)

/-! ## The blobs -/

/-- One round of the loop of `parse_batch_blobs`: the blob at the cursor and the cursor behind it. An end of the blob that
overflows is as little an index of the output as one that lies beyond it. -/
def blobAt (bytes : List UInt8) (cursor : Nat) (entry : TreeEntry) : Except (Stop SourceError) (List UInt8 × Nat) := do
  let offset ← okOr (lineEnd (← slice bytes cursor bytes.length)) (.error (unsupported "truncated cat-file header"))
  let headerEnd := cursor + offset
  let header ← okOr (fromUtf8 (← slice bytes cursor headerEnd)) (.error (unsupported "non-UTF-8 cat-file header"))
  let fields := splitAsciiWhitespace header
  let objectId := fields[0]?.getD []
  let kind := fields[1]?.getD []
  let size ← okOr (fields[2]?.bind (parseNat (2 ^ 64))) (.error (.unsupportedTreeEntry header))
  refuse (3 < fields.length ∨ objectId ≠ entry.objectId.1 ∨ kind ≠ "blob".toList) (.unsupportedTreeEntry header)
  refuse (maxSourceFileBytes < size) (.sourceFileTooLarge entry.path)
  let contentStart := headerEnd + 1
  let contentEnd ← okOr (some (contentStart + size) |>.filter (· < bytes.length))
    (.error (unsupported "truncated cat-file blob"))
  let terminator ← index bytes contentEnd
  refuse (terminator ≠ 10) (unsupported "invalid cat-file blob terminator")
  let blob ← slice bytes contentStart contentEnd
  return (blob, contentEnd + 1)

def blobsFrom (bytes : List UInt8) : Nat → List TreeEntry → Except (Stop SourceError) (List (List UInt8))
  | cursor, [] => do
      refuse (cursor ≠ bytes.length) (unsupported "unexpected trailing cat-file output")
      return []
  | cursor, entry :: entries => do
      let (blob, next) ← blobAt bytes cursor entry
      let blobs ← blobsFrom bytes next entries
      return blob :: blobs

def parseBatchBlobs (bytes : List UInt8) (entries : List TreeEntry) : Except (Stop SourceError) (List (List UInt8)) :=
  blobsFrom bytes 0 entries

/-! ## Outputs that consist of blobs -/

/-- A header names the object, its kind and its size, in words between which there are spaces of any kind. -/
structure IsHeader (header : List Char) (entry : TreeEntry) (size : Nat) : Prop where
  line : 10 ∉ utf8 header
  fields : ∃ sizeText, splitAsciiWhitespace header = [entry.objectId.1, "blob".toList, sizeText] ∧
    parseNat (2 ^ 64) sizeText = some size

/-- A header, the bytes of the blob, and a newline. -/
def IsRecord (entry : TreeEntry) (blob record : List UInt8) : Prop :=
  ∃ header, IsHeader header entry blob.length ∧ blob.length ≤ maxSourceFileBytes ∧
    record = utf8 header ++ 10 :: (blob ++ [10])

/-- The records of the entries, in their order and nothing else. -/
inductive Consists : List TreeEntry → List (List UInt8) → List UInt8 → Prop
  | nil : Consists [] [] []
  | cons {entry : TreeEntry} {blob record : List UInt8} {entries : List TreeEntry} {blobs : List (List UInt8)}
      {rest : List UInt8} (here : IsRecord entry blob record) (there : Consists entries blobs rest) :
      Consists (entry :: entries) (blob :: blobs) (record ++ rest)

/-- What `git cat-file --batch` writes for a blob. -/
def catFileHeader (entry : TreeEntry) (size : Nat) : List Char :=
  entry.objectId.1 ++ ' ' :: ("blob".toList ++ ' ' :: Nat.toDigits 10 size)

def catFileRecord (entry : TreeEntry) (blob : List UInt8) : List UInt8 :=
  utf8 (catFileHeader entry blob.length) ++ 10 :: (blob ++ [10])

def catFileOutput (entries : List TreeEntry) (blobs : List (List UInt8)) : List UInt8 :=
  (List.zipWith catFileRecord entries blobs).flatten

/-! ## The listing is bounded -/

theorem treeEntry_faultless (record : List UInt8) : Faultless (treeEntry record) := by
  refine Faultless.bind_of_ok (faultless_okOr _ _) fun tab htab => ?_
  obtain ⟨hlt, -⟩ := List.findIdx?_eq_some_iff_getElem.1 (okOr_eq_ok.1 htab)
  refine Faultless.bind (faultless_slice (Nat.zero_le _) hlt.le) fun header => Faultless.bind (faultless_okOr _ _) fun text => ?_
  refine Faultless.bind (faultless_slice hlt (Nat.le_refl _)) fun path => Faultless.bind (faultless_okOr _ _) fun text' => ?_
  refine Faultless.bind (faultless_okOr _ _) fun modeText => Faultless.bind (faultless_okOr _ _) fun kind => ?_
  refine Faultless.bind (faultless_okOr _ _) fun objectId => Faultless.bind (faultless_refuse _ _) fun _ => ?_
  refine Faultless.bind (faultless_okOr _ _) fun mode => ?_
  split_ifs
  · exact faultless_ok _
  · exact faultless_error _

theorem treeEntries_spec {count : Nat} (h : count ≤ maxSourceFiles) (records : List (List UInt8)) :
    Faultless (treeEntries count records) ∧
      ∀ entries, treeEntries count records = .ok entries → count + entries.length ≤ maxSourceFiles := by
  induction records generalizing count with
  | nil =>
      refine ⟨faultless_ok _, fun entries hok => ?_⟩
      cases hok
      exact h
  | cons record records ih =>
      by_cases hfull : count = maxSourceFiles
      · have hstop : treeEntries count (record :: records) = .error (.error .tooManyFiles) := by
          rw [treeEntries, refuse, if_pos hfull]
          rfl
        rw [hstop]
        exact ⟨faultless_error _, fun entries hok => by cases hok⟩
      · obtain ⟨hrun, hlength⟩ := ih (by omega : count + 1 ≤ maxSourceFiles)
        constructor
        · refine Faultless.bind (faultless_refuse _ _) fun _ => Faultless.bind (treeEntry_faultless record) fun entry => ?_
          exact Faultless.bind hrun fun entries => faultless_ok _
        · intro entries hok
          simp only [treeEntries, bind_eq_ok, pure_eq_ok] at hok
          obtain ⟨-, -, entry, -, rest, hrest, rfl⟩ := hok
          have hle := hlength rest hrest
          rw [List.length_cons]
          omega

theorem fields_eq {fields : List (List Char)} {id kind : List Char} {bound size : Nat} :
    (fields[2]?.bind (parseNat bound) = some size ∧
      ¬(3 < fields.length ∨ fields[0]?.getD [] ≠ id ∨ fields[1]?.getD [] ≠ kind)) ↔
      ∃ sizeText, fields = [id, kind, sizeText] ∧ parseNat bound sizeText = some size := by
  constructor
  · rintro ⟨hsize, hfields⟩
    obtain ⟨hlength, hid, hkind⟩ : fields.length ≤ 3 ∧ fields[0]?.getD [] = id ∧ fields[1]?.getD [] = kind := by
      simpa only [not_or, not_not, Nat.not_lt] using hfields
    obtain ⟨sizeText, hthird, hparse⟩ := Option.bind_eq_some_iff.1 hsize
    refine ⟨sizeText, ?_, hparse⟩
    rcases fields with _ | ⟨first, _ | ⟨second, _ | ⟨third, _ | ⟨fourth, fields⟩⟩⟩⟩
    case cons.cons.cons.nil =>
      obtain rfl : first = id := hid
      obtain rfl : second = kind := hkind
      obtain rfl : third = sizeText := Option.some.inj hthird
      rfl
    case cons.cons.cons.cons => exact absurd hlength (by simp)
    all_goals cases hthird
  · rintro ⟨sizeText, rfl, hparse⟩
    exact ⟨hparse, by simp⟩

theorem blobAt_eq_ok {before rest blob : List UInt8} {entry : TreeEntry} {next : Nat} :
    blobAt (before ++ rest) before.length entry = .ok (blob, next) ↔
      ∃ record rest', rest = record ++ rest' ∧ IsRecord entry blob record ∧ next = before.length + record.length := by
  have hle : before.length ≤ (before ++ rest).length := by rw [List.length_append]; omega
  unfold blobAt
  rw [slice_length hle, List.drop_left]
  simp only [bind_eq_ok, okOr_eq_ok, refuse_eq_ok, exists_const, Except.ok.injEq, exists_eq_left', pure_eq_ok]
  constructor
  · rintro ⟨offset, hoffset, line', hline', header, hheader, size, hsize, hfields, hlimit, contentEnd, hend, terminator,
      hterminator, hnewline, blob', hblob, heq⟩
    obtain ⟨line, tail, rfl, hline, rfl⟩ := lineEnd_eq_some.1 hoffset
    have hcut : before ++ (line ++ 10 :: tail) = before ++ (line ++ 10 :: tail) := rfl
    rw [slice_of_eq hcut rfl rfl] at hline'
    obtain rfl : line = line' := Except.ok.inj hline'
    obtain ⟨hsum, hin⟩ := Option.filter_eq_some_iff.1 hend
    obtain rfl := Option.some.inj hsum
    obtain ⟨sizeText, hwords, hparse⟩ := fields_eq.1 ⟨hsize, hfields⟩
    -- The end lies within the output, so the blob does, and a byte behind it.
    have hinside : size < tail.length := by
      have hlt := of_decide_eq_true hin
      simp only [List.length_append, List.length_cons] at hlt
      omega
    obtain ⟨content, tail, rfl, rfl⟩ := split_at hinside.le
    obtain ⟨last, tail, rfl⟩ : ∃ last tail', tail = last :: tail' := by
      rw [List.length_append] at hinside
      exact List.exists_cons_of_length_pos (by omega)
    have hparts : before ++ (line ++ 10 :: (content ++ last :: tail)) =
        (before ++ (line ++ [10])) ++ (content ++ last :: tail) := by simp
    have hstart : (before ++ (line ++ [10])).length = before.length + line.length + 1 := by simp; omega
    have hlast : before ++ (line ++ 10 :: (content ++ last :: tail)) =
        (before ++ (line ++ [10]) ++ content) ++ last :: tail := by simp
    rw [index_of_eq hlast (by rw [List.length_append, hstart])] at hterminator
    rw [slice_of_eq hparts hstart rfl] at hblob
    obtain rfl := Except.ok.inj hterminator
    obtain rfl := Except.ok.inj hblob
    obtain ⟨rfl, rfl⟩ := Prod.mk.inj heq
    obtain rfl := not_not.1 hnewline
    obtain rfl := utf8_of_fromUtf8 hheader
    refine ⟨utf8 header ++ 10 :: (content ++ [10]), tail, by simp, ?_, by simp; omega⟩
    exact ⟨header, ⟨hline, sizeText, hwords, hparse⟩, Nat.not_lt.1 hlimit, rfl⟩
  · rintro ⟨record, rest', rfl, ⟨header, ⟨hline, hwords⟩, hlimit, rfl⟩, rfl⟩
    obtain ⟨hsize, hfields⟩ := fields_eq.2 hwords
    have hparts : before ++ (utf8 header ++ 10 :: (blob ++ [10]) ++ rest') =
        (before ++ (utf8 header ++ [10])) ++ (blob ++ 10 :: rest') := by simp
    have hstart : (before ++ (utf8 header ++ [10])).length = before.length + (utf8 header).length + 1 := by simp; omega
    refine ⟨(utf8 header).length, ?_, utf8 header, ?_, header, fromUtf8_utf8 header, blob.length, hsize, hfields,
      Nat.not_lt.2 hlimit, before.length + (utf8 header).length + 1 + blob.length, ?_, 10, ?_, not_not.2 rfl, blob, ?_, ?_⟩
    · rw [List.append_assoc, List.cons_append, lineEnd_append hline]
    · exact slice_of_eq (by rw [List.append_assoc]) rfl rfl
    · refine Option.filter_eq_some_iff.2 ⟨rfl, decide_eq_true ?_⟩
      rw [hparts, List.length_append, hstart, List.length_append, List.length_cons]
      omega
    · have hlast : before ++ (utf8 header ++ 10 :: (blob ++ [10]) ++ rest') =
          (before ++ (utf8 header ++ [10]) ++ blob) ++ 10 :: rest' := by simp
      exact index_of_eq hlast (by rw [List.length_append, hstart])
    · exact slice_of_eq hparts hstart rfl
    · refine congrArg (Prod.mk blob) ?_
      simp
      omega

/-- **What is accepted.** The output behind the cursor consists of the records of the entries that are left. -/
theorem blobsFrom_eq_ok {before rest : List UInt8} {entries : List TreeEntry} {blobs : List (List UInt8)} :
    blobsFrom (before ++ rest) before.length entries = .ok blobs ↔ Consists entries blobs rest := by
  induction entries generalizing before rest blobs with
  | nil =>
      simp only [blobsFrom, bind_eq_ok, refuse_eq_ok, exists_const, pure_eq_ok, not_not]
      constructor
      · rintro ⟨hend, rfl⟩
        rw [List.length_append, Nat.left_eq_add, List.length_eq_zero_iff] at hend
        subst hend
        exact Consists.nil
      · intro h
        cases h
        exact ⟨by rw [List.append_nil], rfl⟩
  | cons entry entries ih =>
      simp only [blobsFrom, bind_eq_ok, Prod.exists, blobAt_eq_ok, pure_eq_ok]
      constructor
      · rintro ⟨blob, next, ⟨record, rest', rfl, hrecord, rfl⟩, blobs, hblobs, rfl⟩
        rw [← List.append_assoc, ← List.length_append] at hblobs
        exact Consists.cons hrecord (ih.1 hblobs)
      · intro h
        cases h with
        | @cons _ blob record _ blobs rest' here there =>
            refine ⟨blob, _, ⟨record, rest', rfl, here, rfl⟩, blobs, ?_, rfl⟩
            rw [← List.append_assoc, ← List.length_append]
            exact ih.2 there

theorem parseBatchBlobs_eq_ok {bytes : List UInt8} {entries : List TreeEntry} {blobs : List (List UInt8)} :
    parseBatchBlobs bytes entries = .ok blobs ↔ Consists entries blobs bytes := by
  have h := @blobsFrom_eq_ok [] bytes entries blobs
  exact h

/-! ## The accesses are within bounds -/

theorem lineEnd_lt {bytes : List UInt8} {stop : Nat} (h : lineEnd bytes = some stop) : stop < bytes.length := by
  obtain ⟨line, rest, rfl, -, rfl⟩ := lineEnd_eq_some.1 h
  rw [List.length_append, List.length_cons]
  omega

/-- A round from a cursor within the output does not abort, and leaves the cursor within it. -/
theorem blobAt_faultless {bytes : List UInt8} {cursor : Nat} (h : cursor ≤ bytes.length) (entry : TreeEntry) :
    Faultless (blobAt bytes cursor entry) ∧
      ∀ blob next, blobAt bytes cursor entry = .ok (blob, next) → next ≤ bytes.length := by
  constructor
  · refine Faultless.bind_of_ok (faultless_slice h (Nat.le_refl _)) fun rest hrest => ?_
    refine Faultless.bind_of_ok (faultless_okOr _ _) fun offset hoffset => ?_
    have hstop : cursor + offset < bytes.length := by
      rw [slice_length h] at hrest
      obtain rfl := Except.ok.inj hrest
      have hlt := lineEnd_lt (okOr_eq_ok.1 hoffset)
      rw [List.length_drop] at hlt
      omega
    refine Faultless.bind (faultless_slice (Nat.le_add_right _ _) hstop.le) fun header => ?_
    refine Faultless.bind (faultless_okOr _ _) fun text => Faultless.bind (faultless_okOr _ _) fun size => ?_
    refine Faultless.bind (faultless_refuse _ _) fun _ => Faultless.bind (faultless_refuse _ _) fun _ => ?_
    refine Faultless.bind_of_ok (faultless_okOr _ _) fun contentEnd hend => ?_
    obtain ⟨hsum, hin⟩ := Option.filter_eq_some_iff.1 (okOr_eq_ok.1 hend)
    obtain rfl := Option.some.inj hsum
    have hlt := of_decide_eq_true hin
    refine Faultless.bind (faultless_index hlt) fun _ => Faultless.bind (faultless_refuse _ _) fun _ => ?_
    exact Faultless.bind (faultless_slice (Nat.le_add_right _ _) hlt.le) fun blob => faultless_ok _
  · intro blob next hok
    obtain ⟨before, rest, rfl, rfl⟩ := split_at h
    obtain ⟨record, rest', rfl, -, rfl⟩ := blobAt_eq_ok.1 hok
    simp only [List.length_append]
    omega

theorem blobsFrom_faultless {bytes : List UInt8} {cursor : Nat} (h : cursor ≤ bytes.length) (entries : List TreeEntry) :
    Faultless (blobsFrom bytes cursor entries) := by
  induction entries generalizing cursor with
  | nil => exact Faultless.bind (faultless_refuse _ _) fun _ => faultless_ok _
  | cons entry entries ih =>
      obtain ⟨hround, hnext⟩ := blobAt_faultless h entry
      refine Faultless.bind_of_ok hround fun result hresult => ?_
      exact Faultless.bind (ih (hnext result.1 result.2 hresult)) fun blobs => faultless_ok _

/-! ## What Git writes -/

theorem toNat_of_isObjectId {id : List Char} (h : IsObjectId id) {c : Char} (hc : c ∈ id) : 48 ≤ c.toNat ∧ c.toNat < 128 := by
  have hdigit := h.digits c hc
  simp only [inRange, decide_eq_true_eq] at hdigit
  change (48 ≤ c.toNat ∧ c.toNat ≤ 57) ∨ 97 ≤ c.toNat ∧ c.toNat ≤ 102 at hdigit
  omega

theorem toNat_of_mem_digits {n : Nat} {c : Char} (hc : c ∈ Nat.toDigits 10 n) : 48 ≤ c.toNat ∧ c.toNat < 128 := by
  have hrange := toNat_of_isDigit (isDigit_digits c hc)
  omega

/-- The header of a blob that is not too large is one. -/
theorem isHeader_catFileHeader (entry : TreeEntry) {size : Nat} (h : size ≤ maxSourceFileBytes) :
    IsHeader (catFileHeader entry size) entry size := by
  have hid : entry.objectId.1 ≠ [] := fun hnil => by
    have hlength := entry.objectId.2.length
    rw [hnil] at hlength
    exact absurd hlength (by decide)
  refine ⟨newline_notMem_utf8 fun c hc => ?_, Nat.toDigits 10 size, ?_, parseNat_digits ?_⟩
  · have hc' : c ∈ entry.objectId.1 ∨ c ∈ [' ', 'b', 'l', 'o', 'b', ' '] ∨ c ∈ Nat.toDigits 10 size := by
      simpa [catFileHeader, or_assoc] using hc
    have hrange : 32 ≤ c.toNat ∧ c.toNat < 128 := by
      rcases hc' with hc' | hc' | hc'
      · have hlow := toNat_of_isObjectId entry.objectId.2 hc'
        omega
      · have hword : ∀ c ∈ [' ', 'b', 'l', 'o', 'b', ' '], 32 ≤ c.toNat ∧ c.toNat < 128 := by simp
        exact hword c hc'
      · have hlow := toNat_of_mem_digits hc'
        omega
    exact ⟨hrange.2, by rintro rfl; exact absurd hrange.1 (by decide)⟩
  · unfold catFileHeader
    rw [splitAsciiWhitespace_word hid (fun c hc => isAsciiWhitespace_eq_false ?_) (by decide),
      splitAsciiWhitespace_word (by decide) (by simp [isAsciiWhitespace]) (by decide),
      splitAsciiWhitespace_last (Nat.toDigits_ne_nil) fun c hc => isAsciiWhitespace_eq_false ?_]
    · have hlow := toNat_of_mem_digits hc
      omega
    · have hlow := toNat_of_isObjectId entry.objectId.2 hc
      omega
  · exact Nat.lt_of_le_of_lt h (by decide)

theorem consists_catFileOutput {entries : List TreeEntry} {blobs : List (List UInt8)} (hlength : blobs.length = entries.length)
    (hsize : ∀ blob ∈ blobs, blob.length ≤ maxSourceFileBytes) : Consists entries blobs (catFileOutput entries blobs) := by
  induction entries generalizing blobs with
  | nil =>
      obtain rfl := List.length_eq_zero_iff.1 hlength
      exact Consists.nil
  | cons entry entries ih =>
      obtain ⟨blob, blobs, rfl⟩ := List.exists_cons_of_length_eq_add_one hlength
      have hblob := hsize blob List.mem_cons_self
      refine Consists.cons ⟨_, isHeader_catFileHeader entry hblob, hblob, rfl⟩ (ih (Nat.succ.inj hlength) ?_)
      exact fun blob' hmem => hsize blob' (List.mem_cons_of_mem blob hmem)

/-- **Main result.** What Git writes for blobs of the allowed size is read back; the outputs that are accepted are those
that consist of the records of the entries; and no access is out of bounds. -/
theorem parseBatchBlobs_exact (entries : List TreeEntry) :
    (∀ blobs : List (List UInt8), blobs.length = entries.length →
      (∀ blob ∈ blobs, blob.length ≤ 8 * 1024 * 1024) →
        parseBatchBlobs (catFileOutput entries blobs) entries = .ok blobs) ∧
    (∀ bytes blobs, parseBatchBlobs bytes entries = .ok blobs ↔ Consists entries blobs bytes) ∧
    ∀ bytes, Faultless (parseBatchBlobs bytes entries) := by
  refine ⟨fun blobs hlength hsize => ?_, fun bytes blobs => parseBatchBlobs_eq_ok, fun bytes => ?_⟩
  · exact parseBatchBlobs_eq_ok.2 (consists_catFileOutput hlength hsize)
  · exact blobsFrom_faultless (Nat.zero_le _) entries

theorem isObjectId_replicate : IsObjectId (List.replicate 40 'a') := by
  refine ⟨by decide, fun c hc => ?_⟩
  rw [List.eq_of_mem_replicate hc]
  decide

def sampleEntry : TreeEntry where
  mode := 0o100644
  objectId := ⟨List.replicate 40 'a', isObjectId_replicate⟩
  path := "notes.txt".toList

/-- Of two blobs the first looks like a header. -/
theorem parseBatchBlobs_exact_two :
    parseBatchBlobs (catFileOutput [sampleEntry, sampleEntry] [[97, 32, 98, 10], []]) [sampleEntry, sampleEntry] =
      .ok [[97, 32, 98, 10], []] :=
  (parseBatchBlobs_exact [sampleEntry, sampleEntry]).1 [[97, 32, 98, 10], []] (by decide) (by decide)

/-- A header with a second space and a plus sign is accepted, though Git writes none. -/
theorem loose_header_accepted :
    ¬∀ (entries : List TreeEntry) (bytes : List UInt8) (blobs : List (List UInt8)),
      parseBatchBlobs bytes entries = .ok blobs → bytes = catFileOutput entries blobs := by
  intro h
  have hloose := h [sampleEntry] (utf8 (List.replicate 40 'a' ++ "  blob +1\n".toList) ++ [120, 10]) [[120]]
    (by decide)
  revert hloose
  decide

end HyperTerm.Sandbox.Worktree
