import HyperTerm.Core.Journal

/-!
# Appends that fail half way

An append that fails leaves what it wrote in the file and nothing in memory, and the next append writes
after it under the same sequence number. A run of appends is read as what each call left (`Piece`):

* `readLoop_pieces` : the file reads well exactly when it consists of whole lines numbered without a gap;
* `recovers_iff_clean` : this is so exactly when no call left part of a line and no whole line follows the
  whole line of a failed call.
-/

namespace HyperTerm.Core
open HyperTerm.Protocol HyperTerm.Lib

variable (C : LineCodec EventEnvelope)

/-! ## What a call leaves in the file -/

/-- One call of `append_envelope` and the point at which its I/O stops. -/
structure AppendCall where
  envelope : EventEnvelope
  io : AppendIo

inductive Piece where
  | line (event : EventEnvelope)
  | fragment (bytes : List UInt8)

def Piece.bytes : Piece → List UInt8
  | .line event => C.encode event ++ [newline]
  | .fragment bytes => bytes

namespace AppendCall

def left (call : AppendCall) (j : JsonlJournal) : Option Piece :=
  match j.encodeLine C call.envelope with
  | .error _ => none
  | .ok encoded =>
      if call.io.written encoded = [] then none
      else if call.io.written encoded = encoded ++ [newline] then some (.line call.envelope)
      else some (.fragment (call.io.written encoded))

def next (call : AppendCall) (j : JsonlJournal) : JsonlJournal := (j.appendEnvelope C call.envelope call.io).1

def result (call : AppendCall) (j : JsonlJournal) : Except JournalError EventEnvelope :=
  (j.appendEnvelope C call.envelope call.io).2

end AppendCall

/-- The calls of a run, each with the journal it found. -/
def attempts (j : JsonlJournal) : List AppendCall → List (JsonlJournal × AppendCall)
  | [] => []
  | call :: calls => (j, call) :: attempts (call.next C j) calls

def finalJournal (j : JsonlJournal) (calls : List AppendCall) : JsonlJournal :=
  calls.foldl (fun j call => call.next C j) j

def results (j : JsonlJournal) (calls : List AppendCall) : List (Except JournalError EventEnvelope) :=
  (attempts C j calls).map fun a => a.2.result C a.1

def accepted (j : JsonlJournal) (calls : List AppendCall) : List EventEnvelope :=
  (results C j calls).filterMap Except.toOption

/-! ## The claim on a run -/

/-- Some call failed and a later call succeeded. -/
def ErrThenOk (rs : List (Except JournalError EventEnvelope)) : Prop :=
  ∃ (i k : Nat) (e : JournalError) (v : EventEnvelope),
    i < k ∧ rs[i]? = some (.error e) ∧ rs[k]? = some (.ok v)

/-- Opening the file again succeeds and finds every acknowledged event, in order and without a gap. -/
def Recovers (j : JsonlJournal) (calls : List AppendCall) : Prop :=
  ∃ events, readExisting C (finalJournal C j calls).file = .ok events ∧
    (j.events ++ accepted C j calls).Sublist events ∧ Contiguous 1 events

def Durable (j : JsonlJournal) (calls : List AppendCall) : Prop :=
  ErrThenOk (results C j calls) → Recovers C j calls

def LeavesPart (a : JsonlJournal × AppendCall) : Prop := ∃ bytes, a.2.left C a.1 = some (.fragment bytes)

def LeavesLine (a : JsonlJournal × AppendCall) : Prop := a.2.left C a.1 = some (.line a.2.envelope)

/-- No call leaves part of a line, and no whole line follows the whole line of a failed call. -/
def Clean (j : JsonlJournal) (calls : List AppendCall) : Prop :=
  (∀ a ∈ attempts C j calls, ¬ LeavesPart C a) ∧
    (attempts C j calls).Pairwise fun a b => LeavesLine C a → a.2.io ≠ .done → ¬ LeavesLine C b

def pieces (j : JsonlJournal) (calls : List AppendCall) : List Piece :=
  (attempts C j calls).filterMap fun a => a.2.left C a.1

variable {C}

/-! ## One call -/

/-- Short of the whole line, what is written is a prefix of the encoded event. -/
theorem AppendIo.written_prefix {io : AppendIo} {encoded : List UInt8}
    (h : io.written encoded ≠ encoded ++ [newline]) : io.written encoded <+: encoded := by
  cases io with
  | bodyTorn n => exact List.take_prefix n encoded
  | newlineTorn n =>
      cases n with
      | zero => simp [written]
      | succ n => simp [written] at h
  | done | flushFailed | syncFailed => exact absurd rfl h

/-- A piece of a run: a line that the reader accepts but for its number, or a proper part of an encoding. -/
def Piece.Fits (C : LineCodec EventEnvelope) : Piece → Prop
  | .line event => (C.encode event).length ≤ maxEventLineBytes ∧ event.validate = .ok ()
  | .fragment bytes => bytes ≠ [] ∧ ∃ event, bytes <+: C.encode event

/-- What a call leaves in the file, the journal after it, and its result. -/
inductive AppendCall.Outcome (C : LineCodec EventEnvelope) (call : AppendCall) (j : JsonlJournal) :
    Option Piece → JsonlJournal → Except JournalError EventEnvelope → Prop
  | nothing (e : JournalError) : Outcome C call j none j (.error e)
  | done (hio : call.io = .done) (hseq : call.envelope.sequence = j.lastSequence + 1)
      (hfits : (Piece.line call.envelope).Fits C) :
      Outcome C call j (some (.line call.envelope))
        ⟨j.file ++ (Piece.line call.envelope).bytes C, j.events ++ [call.envelope]⟩ (.ok call.envelope)
  | lineFailed (hio : call.io ≠ .done) (hseq : call.envelope.sequence = j.lastSequence + 1)
      (hfits : (Piece.line call.envelope).Fits C) :
      Outcome C call j (some (.line call.envelope))
        ⟨j.file ++ (Piece.line call.envelope).bytes C, j.events⟩ (.error .io)
  | partFailed (hio : call.io ≠ .done) (bytes : List UInt8) (hfits : (Piece.fragment bytes).Fits C) :
      Outcome C call j (some (.fragment bytes)) ⟨j.file ++ bytes, j.events⟩ (.error .io)

theorem AppendCall.outcome (call : AppendCall) (j : JsonlJournal) :
    call.Outcome C j (call.left C j) (call.next C j) (call.result C j) := by
  unfold left next result JsonlJournal.appendEnvelope
  cases henc : j.encodeLine C call.envelope with
  | error e => exact .nothing e
  | ok encoded =>
      obtain ⟨hs, hq, hl, rfl⟩ := JsonlJournal.encodeLine_eq_ok.mp henc
      have hfits : (Piece.line call.envelope).Fits C :=
        ⟨hl, EventEnvelope.validate_eq_ok.mpr ⟨hs, by omega⟩⟩
      dsimp only
      by_cases hio : call.io = .done
      · have hw : call.io.written (C.encode call.envelope) = C.encode call.envelope ++ [newline] := by
          rw [hio]
          rfl
        rw [hw, if_neg (by simp), if_pos rfl, if_pos hio]
        exact .done hio hq hfits
      · rw [if_neg hio]
        split_ifs with hnil hline
        · rw [hnil, List.append_nil]
          exact .nothing .io
        · rw [hline]
          exact .lineFailed hio hq hfits
        · exact .partFailed hio _ ⟨hnil, call.envelope, AppendIo.written_prefix hline⟩

/-! ## Reading the pieces back -/

/-- A fragment is never read over: what follows it up to the next newline does not decode. -/
theorem readLoop_fragments {expected : Nat} {fragments : List (List UInt8)} {ps : List Piece}
    (hne : fragments ≠ []) (hfrag : ∀ q ∈ fragments, (Piece.fragment q).Fits C)
    (hfits : ∀ p ∈ ps, p.Fits C) (events : List EventEnvelope) :
    readLoop C expected (fragments.flatten ++ (ps.map (Piece.bytes C)).flatten) ≠ .ok events := by
  have hclean : newline ∉ fragments.flatten := fun hmem => by
    obtain ⟨q, hq, hnl⟩ := List.mem_flatten.mp hmem
    obtain ⟨-, e, he⟩ := hfrag q hq
    exact C.newline_notMem e (he.subset hnl)
  obtain ⟨q₀, more, rfl⟩ := List.exists_cons_of_ne_nil hne
  have hnil : (q₀ :: more).flatten ≠ [] := by
    rw [List.flatten_cons]
    exact List.append_ne_nil_of_left_ne_nil (hfrag q₀ List.mem_cons_self).1 _
  induction ps generalizing q₀ more with
  | nil =>
      intro h
      rw [List.map_nil, List.flatten_nil, List.append_nil, readLoop_of_ne_nil hnil,
        takeLine_of_notMem hclean] at h
      obtain ⟨e, he, -⟩ := bind_eq_ok.mp h
      exact hclean (List.mem_of_getLast? (readLine_eq_ok_getLast? he).1)
  | cons p ps ih =>
      cases p with
      | line e =>
          intro h
          have hsplit : (q₀ :: more).flatten ++ (((Piece.line e :: ps).map (Piece.bytes C)).flatten) =
              ((q₀ :: more).flatten ++ C.encode e) ++ newline :: (ps.map (Piece.bytes C)).flatten := by
            simp [Piece.bytes]
          have hbody : newline ∉ (q₀ :: more).flatten ++ C.encode e := by
            rw [List.mem_append, not_or]
            exact ⟨hclean, C.newline_notMem e⟩
          rw [hsplit, readLoop_of_ne_nil (by simp), takeLine_append hbody] at h
          obtain ⟨v, hv, -⟩ := bind_eq_ok.mp h
          unfold readLine at hv
          rw [List.dropLast_concat, C.decode_garbled (q₀ :: more) e (by simp) hfrag] at hv
          split_ifs at hv
      | fragment bytes =>
          have hbytes : (Piece.fragment bytes).Fits C := hfits _ List.mem_cons_self
          have hsplit : (q₀ :: more).flatten ++ ((Piece.fragment bytes :: ps).map (Piece.bytes C)).flatten =
              (q₀ :: (more ++ [bytes])).flatten ++ (ps.map (Piece.bytes C)).flatten := by
            simp [Piece.bytes]
          have hfrag' : ∀ q ∈ q₀ :: (more ++ [bytes]), (Piece.fragment q).Fits C := by
            intro q hq
            rw [← List.cons_append, List.mem_append, List.mem_singleton] at hq
            rcases hq with hq | rfl
            · exact hfrag q hq
            · exact hbytes
          rw [hsplit]
          refine ih (fun p hp => hfits p (List.mem_cons_of_mem _ hp)) q₀ _ (by simp) hfrag' ?_ ?_
          · intro hmem
            obtain ⟨q, hq, hnl⟩ := List.mem_flatten.mp hmem
            obtain ⟨-, e, he⟩ := hfrag' q hq
            exact C.newline_notMem e (he.subset hnl)
          · rw [List.flatten_cons]
            exact List.append_ne_nil_of_left_ne_nil (hfrag q₀ List.mem_cons_self).1 _

/-- Pieces read well exactly when they are whole lines numbered without a gap. -/
theorem readLoop_pieces {expected : Nat} {ps : List Piece} (hfits : ∀ p ∈ ps, p.Fits C)
    (events : List EventEnvelope) :
    readLoop C expected (ps.map (Piece.bytes C)).flatten = .ok events ↔
      ps = events.map .line ∧ Contiguous expected events := by
  induction ps generalizing expected events with
  | nil =>
      rw [List.map_nil, List.flatten_nil, readLoop_nil, Except.ok.injEq]
      constructor
      · rintro rfl
        exact ⟨rfl, trivial⟩
      · rintro ⟨h, -⟩
        exact (List.map_eq_nil_iff.mp h.symm).symm
  | cons p ps ih =>
      have hps : ∀ p ∈ ps, p.Fits C := fun p hp => hfits p (List.mem_cons_of_mem _ hp)
      cases p with
      | line e =>
          obtain ⟨hlen, hv⟩ : (Piece.line e).Fits C := hfits _ List.mem_cons_self
          rw [List.map_cons, List.flatten_cons, Piece.bytes, List.append_assoc, List.singleton_append,
            readLoop_line hlen hv]
          split_ifs with hseq
          · refine ⟨fun h => (nomatch h), ?_⟩
            rintro ⟨h, hcont⟩
            obtain ⟨e', es, rfl, he, -⟩ := List.map_eq_cons_iff.mp h.symm
            exact hseq ((Piece.line.inj he) ▸ hcont.1)
          · rw [not_not] at hseq
            simp only [Functor.map, Except.map]
            constructor
            · intro h
              cases hrest : readLoop C (expected + 1) (ps.map (Piece.bytes C)).flatten with
              | error err =>
                  rw [hrest] at h
                  exact nomatch h
              | ok es =>
                  rw [hrest] at h
                  obtain rfl := Except.ok.inj h
                  obtain ⟨rfl, hcont⟩ := (ih hps es).mp hrest
                  exact ⟨rfl, hseq, hcont⟩
            · rintro ⟨h, hcont⟩
              obtain ⟨e', es, rfl, he, rfl⟩ := List.map_eq_cons_iff.mp h.symm
              obtain rfl := Piece.line.inj he
              rw [(ih hps es).mpr ⟨rfl, hcont.2⟩]
      | fragment bytes =>
          have hbytes : (Piece.fragment bytes).Fits C := hfits _ List.mem_cons_self
          have hbad : readLoop C expected ([bytes].flatten ++ (ps.map (Piece.bytes C)).flatten) ≠ .ok events :=
            readLoop_fragments (by simp) (by simpa using hbytes) hps events
          rw [List.flatten_cons, List.flatten_nil, List.append_nil] at hbad
          refine ⟨fun h => absurd h hbad, ?_⟩
          rintro ⟨h, -⟩
          obtain ⟨e', es, -, he, -⟩ := List.map_eq_cons_iff.mp h.symm
          exact nomatch he

/-! ## Runs of calls -/

section Runs

variable {j : JsonlJournal} {call : AppendCall} {calls : List AppendCall}

theorem pieces_cons :
    pieces C j (call :: calls) = (call.left C j).toList ++ pieces C (call.next C j) calls := by
  unfold pieces
  rw [attempts, List.filterMap_cons]
  cases call.left C j <;> rfl

theorem pieces_fit (j : JsonlJournal) (calls : List AppendCall) : ∀ p ∈ pieces C j calls, p.Fits C := by
  induction calls generalizing j with
  | nil => exact fun p hp => absurd hp List.not_mem_nil
  | cons call calls ih =>
      intro p hp
      rw [pieces_cons, List.mem_append, Option.mem_toList] at hp
      rcases hp with hp | hp
      · have hout := call.outcome (C := C) j
        rw [hp] at hout
        generalize call.next C j = n, call.result C j = r at hout
        cases hout with
        | done _ _ hfits => exact hfits
        | lineFailed _ _ hfits => exact hfits
        | partFailed _ _ hfits => exact hfits
      · exact ih _ p hp

theorem finalJournal_file (j : JsonlJournal) (calls : List AppendCall) :
    (finalJournal C j calls).file = j.file ++ ((pieces C j calls).map (Piece.bytes C)).flatten := by
  induction calls generalizing j with
  | nil => simp [finalJournal, pieces, attempts]
  | cons call calls ih =>
      have hstep : (call.next C j).file = j.file ++ ((call.left C j).toList.map (Piece.bytes C)).flatten := by
        have hout := call.outcome (C := C) j
        generalize call.left C j = l, call.next C j = n, call.result C j = r at hout ⊢
        cases hout with
        | nothing e => simp
        | done hio hseq hfits => simp
        | lineFailed hio hseq hfits => simp
        | partFailed hio bytes hfits => simp [Piece.bytes]
      rw [pieces_cons, List.map_append, List.flatten_append, ← List.append_assoc, ← hstep]
      exact ih _

/-- The acknowledged events are among the whole lines of the run. -/
theorem accepted_sublist (j : JsonlJournal) (calls : List AppendCall) :
    ((accepted C j calls).map Piece.line).Sublist (pieces C j calls) := by
  induction calls generalizing j with
  | nil => exact List.Sublist.refl _
  | cons call calls ih =>
      have hacc : accepted C j (call :: calls) =
          (call.result C j).toOption.toList ++ accepted C (call.next C j) calls := by
        simp only [accepted, results, attempts, List.map_cons, List.filterMap_cons]
        cases (call.result C j).toOption <;> rfl
      rw [hacc, pieces_cons, List.map_append]
      refine List.Sublist.append ?_ (ih _)
      have hout := call.outcome (C := C) j
      generalize call.left C j = l, call.next C j = n, call.result C j = r at hout ⊢
      cases hout with
      | nothing e => exact List.nil_sublist _
      | done hio hseq hfits => exact List.Sublist.refl _
      | lineFailed hio hseq hfits => exact List.nil_sublist _
      | partFailed hio bytes hfits => exact List.nil_sublist _

/-- The first line of a run carries the number after the journal's last. -/
theorem pieces_head_sequence {e : EventEnvelope} {ps : List Piece} (h : pieces C j calls = .line e :: ps) :
    e.sequence = j.lastSequence + 1 := by
  induction calls generalizing j with
  | nil => exact nomatch h
  | cons call calls ih =>
      rw [pieces_cons] at h
      have hout := call.outcome (C := C) j
      generalize call.left C j = l, call.next C j = n, call.result C j = r at hout h
      cases hout with
      | nothing _ => exact ih h
      | done _ hseq _ | lineFailed _ hseq _ =>
          simp only [Option.toList_some, List.singleton_append, List.cons.injEq, Piece.line.injEq] at h
          exact h.1 ▸ hseq
      | partFailed _ bytes _ =>
          simp only [Option.toList_some, List.singleton_append, List.cons.injEq, reduceCtorEq, false_and] at h

theorem leaves_of_pieces_nil (h : pieces C j calls = []) : ∀ a ∈ attempts C j calls, a.2.left C a.1 = none :=
  List.filterMap_eq_nil_iff.mp h

/-- After the whole line of a failed call, the file reads well only if nothing more is written. -/
theorem lines_after_failed_line {n : Nat} (hn : j.lastSequence = n) :
    (∃ es, pieces C j calls = es.map .line ∧ Contiguous (n + 2) es) ↔ pieces C j calls = [] := by
  constructor
  · rintro ⟨es, hes, hcont⟩
    cases es with
    | nil => exact hes
    | cons e es =>
        have hseq := pieces_head_sequence hes
        have := hcont.1
        omega
  · exact fun h => ⟨[], h, trivial⟩

theorem lines_iff_clean (j : JsonlJournal) (calls : List AppendCall) :
    (∃ es, pieces C j calls = es.map .line ∧ Contiguous (j.lastSequence + 1) es) ↔ Clean C j calls := by
  induction calls generalizing j with
  | nil => exact ⟨fun _ => ⟨fun a ha => absurd ha List.not_mem_nil, .nil⟩, fun _ => ⟨[], rfl, trivial⟩⟩
  | cons call calls ih =>
      have hclean : Clean C j (call :: calls) ↔ ¬ LeavesPart C (j, call) ∧
          (∀ b ∈ attempts C (call.next C j) calls,
            LeavesLine C (j, call) → call.io ≠ .done → ¬ LeavesLine C b) ∧ Clean C (call.next C j) calls := by
        simp only [Clean, attempts, List.forall_mem_cons, List.pairwise_cons]
        tauto
      have ih := ih (call.next C j)
      rw [hclean, pieces_cons]
      unfold LeavesPart LeavesLine at *
      dsimp only at *
      have hout := call.outcome (C := C) j
      generalize call.left C j = l, call.next C j = n, call.result C j = r at *
      cases hout with
      | nothing e => simpa using ih
      | done hio hseq hfits =>
          have hlast : JsonlJournal.lastSequence ⟨j.file ++ (Piece.line call.envelope).bytes C,
              j.events ++ [call.envelope]⟩ = j.lastSequence + 1 := JsonlJournal.lastSequence_append_done.trans hseq
          rw [← ih, hlast]
          simp only [Option.toList_some, List.singleton_append, hio, ne_eq, not_true_eq_false, false_implies,
            implies_true, true_and, Option.some.injEq, reduceCtorEq, exists_false, not_false_eq_true]
          constructor
          · rintro ⟨es, hes, hcont⟩
            obtain ⟨e, es, rfl, he, hrest⟩ := List.map_eq_cons_iff.mp hes.symm
            exact ⟨es, hrest.symm, hcont.2⟩
          · rintro ⟨es, hes, hcont⟩
            exact ⟨call.envelope :: es, by rw [hes, List.map_cons], hseq, hcont⟩
      | lineFailed hio hseq hfits =>
          have hafter : _ ↔ pieces C ⟨j.file ++ (Piece.line call.envelope).bytes C, j.events⟩ calls = [] :=
            lines_after_failed_line (n := j.lastSequence) rfl
          simp only [Option.toList_some, List.singleton_append, Option.some.injEq, reduceCtorEq, exists_false,
            not_false_eq_true, true_and, forall_const, ne_eq, hio]
          constructor
          · rintro ⟨es, hes, hcont⟩
            obtain ⟨e, es, rfl, he, hrest⟩ := List.map_eq_cons_iff.mp hes.symm
            have hnil := hafter.mp ⟨es, hrest.symm, hcont.2⟩
            have hnone := leaves_of_pieces_nil hnil
            refine ⟨fun b hb h => by simp [hnone b hb] at h, ?_⟩
            exact ih.mp ⟨[], hnil, trivial⟩
          · rintro ⟨hno, hcl⟩
            have hnil : pieces C ⟨j.file ++ (Piece.line call.envelope).bytes C, j.events⟩ calls = [] := by
              refine List.filterMap_eq_nil_iff.mpr fun a ha => ?_
              have hpart := hcl.1 a ha
              have hout := a.2.outcome (C := C) a.1
              generalize hl' : a.2.left C a.1 = l', a.2.next C a.1 = n', a.2.result C a.1 = r' at *
              cases hout with
              | nothing _ => rfl
              | done _ _ _ | lineFailed _ _ _ => exact absurd hl' (hno a ha)
              | partFailed _ bytes _ => exact absurd ⟨bytes, hl'⟩ hpart
            exact ⟨[call.envelope], by rw [hnil]; rfl, hseq, trivial⟩
      | partFailed hio bytes hfits =>
          simp only [Option.toList_some, List.singleton_append, Option.some.injEq, Piece.fragment.injEq,
            exists_eq', not_true_eq_false, false_and, iff_false, not_exists, not_and]
          intro es hes
          obtain ⟨e, es, -, he, -⟩ := List.map_eq_cons_iff.mp hes.symm
          exact nomatch he

end Runs

/-! ## Opening the file again -/

/-- A journal as opening a file gives it. -/
structure OpenJournal (C : LineCodec EventEnvelope) extends JsonlJournal where
  opened : readExisting C file = .ok events

/-- The file of a run reads well, with every acknowledged event, exactly when the run is clean. -/
theorem recovers_iff_clean (j : OpenJournal C) (calls : List AppendCall) :
    Recovers C j.toJsonlJournal calls ↔ Clean C j.toJsonlJournal calls := by
  have hcontiguous : Contiguous 1 j.events := readLoop_contiguous j.opened
  have hlast := JsonlJournal.lastSequence_of_contiguous hcontiguous
  have hread : readLoop C 1 (j.file ++ ((pieces C j.toJsonlJournal calls).map (Piece.bytes C)).flatten) = _ :=
    readLoop_append j.opened
  rw [← finalJournal_file] at hread
  rw [← lines_iff_clean, hlast]
  unfold Recovers readExisting
  rw [hread]
  constructor
  · rintro ⟨events, hmap, -, -⟩
    cases hrest : readLoop C (1 + j.events.length) ((pieces C j.toJsonlJournal calls).map (Piece.bytes C)).flatten with
    | error e =>
        rw [hrest] at hmap
        exact nomatch hmap
    | ok es =>
        rw [Nat.add_comm] at hrest
        exact ⟨es, (readLoop_pieces (pieces_fit _ _) es).mp hrest⟩
  · rintro ⟨es, hes, hcont⟩
    rw [Nat.add_comm 1, (readLoop_pieces (pieces_fit _ _) es).mpr ⟨hes, hcont⟩]
    refine ⟨j.events ++ es, rfl, ?_, contiguous_append.mpr ⟨hcontiguous, Nat.add_comm 1 _ ▸ hcont⟩⟩
    refine (List.append_sublist_append_left _).mpr ?_
    have hsub := accepted_sublist (C := C) j.toJsonlJournal calls
    rw [hes] at hsub
    have hline := hsub.filterMap fun p => match p with | .line e => some e | .fragment _ => none
    simpa only [List.filterMap_map, Function.comp_def, List.filterMap_some] using hline

/-- **When a journal survives failed appends.** A run in which a call succeeds after a failed one leaves a file
that opens again with every acknowledged event if and only if the run is clean. -/
theorem durable_iff_clean (C : LineCodec EventEnvelope) (j : OpenJournal C) (calls : List AppendCall) :
    Durable C j.toJsonlJournal calls ↔
      (ErrThenOk (results C j.toJsonlJournal calls) → Clean C j.toJsonlJournal calls) := by
  unfold Durable
  rw [recovers_iff_clean]

def OpenJournal.empty (C : LineCodec EventEnvelope) : OpenJournal C := ⟨⟨[], []⟩, readLoop_nil 1⟩

def firstEvent : EventEnvelope := sampleEvent 1 none (.taskCreated "build terminal")

def tornRun : List AppendCall := [⟨firstEvent, .bodyTorn 1⟩, ⟨firstEvent, .done⟩]

/-- The first append writes one byte and fails; the second succeeds, and the file does not open again. -/
theorem tornRun_not_durable (C : LineCodec EventEnvelope) (hlen : (C.encode firstEvent).length ≤ maxEventLineBytes) :
    ¬ Durable C (OpenJournal.empty C).toJsonlJournal tornRun := by
  have henc : ∀ file, (⟨file, []⟩ : JsonlJournal).encodeLine C firstEvent = .ok (C.encode firstEvent) :=
    fun file => JsonlJournal.encodeLine_eq_ok.mpr ⟨rfl, rfl, hlen, rfl⟩
  have hattempts : attempts C ⟨[], []⟩ tornRun =
      [(⟨[], []⟩, ⟨firstEvent, .bodyTorn 1⟩), (⟨(C.encode firstEvent).take 1, []⟩, ⟨firstEvent, .done⟩)] := by
    simp only [attempts, tornRun, AppendCall.next, JsonlJournal.appendEnvelope, henc]
    rfl
  have hresults : results C ⟨[], []⟩ tornRun = [.error .io, .ok firstEvent] := by
    simp only [results, hattempts, List.map_cons, List.map_nil, AppendCall.result, JsonlJournal.appendEnvelope,
      henc]
    rfl
  intro h
  have hclean := (recovers_iff_clean (OpenJournal.empty C) tornRun).mp
    (h ⟨0, 1, .io, firstEvent, Nat.zero_lt_one, congrArg (·[0]?) hresults, congrArg (·[1]?) hresults⟩)
  obtain ⟨b, bs, hb⟩ := List.exists_cons_of_ne_nil (C.encode_ne_nil firstEvent)
  have hpart : LeavesPart C (⟨[], []⟩, ⟨firstEvent, .bodyTorn 1⟩) := by
    refine ⟨[b], ?_⟩
    have hw : (AppendIo.bodyTorn 1).written (C.encode firstEvent) = [b] := by simp [AppendIo.written, hb]
    change (match JsonlJournal.encodeLine C _ firstEvent with | .error _ => none | .ok _ => _) = _
    rw [henc]
    dsimp only
    rw [hw, hb, if_neg (by simp), if_neg (by simp)]
  have hmem : ((⟨[], []⟩, ⟨firstEvent, .bodyTorn 1⟩) : JsonlJournal × AppendCall) ∈
      attempts C (OpenJournal.empty C).toJsonlJournal tornRun := by
    change _ ∈ attempts C ⟨[], []⟩ tornRun
    rw [hattempts]
    exact List.mem_cons_self
  exact hclean.1 _ hmem hpart

theorem torn_append_not_durable :
    ¬ Durable (LineCodec.short [firstEvent]) (OpenJournal.empty (LineCodec.short [firstEvent])).toJsonlJournal
      tornRun :=
  tornRun_not_durable _ ((LineCodec.length_short_encode_le _ (List.mem_singleton_self _)).trans (by decide))

end HyperTerm.Core
