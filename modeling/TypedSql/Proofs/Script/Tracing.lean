import TypedSql.Proofs.Connection.Tracing
import TypedSql.Proofs.Script.Savepoint
import TypedSql.Proofs.Script.Transaction
import TypedSql.Proofs.Script.Ways

/-!
What brackets trace. As long as texts are traced, each bracket that is entered is reported with the
text that enters it, the reports of its body and the texts that leave it, so the texts of brackets
are nested as their calls are. `Traced n s report m` says of a step that is taken when `n` numbers
were given to savepoints that it is reported like this, and that `m` numbers were given after it.
A number is given when a savepoint without a name is entered, so the texts that enter such savepoints
have the numbers in their order, whatever became of the savepoints and of everything around them.
-/

namespace TypedSql

namespace Step

/-- Whether a step is neither a bracket nor one whose failure is passed over. -/
def isPlain : Step → Bool
  | .transaction _ _ | .savepoint _ _ | .attempt _ => false
  | _ => true

/-! ## Reports -/

/-- The failure that is given where the work of a bracket is undone: that which made it so, or this
with that of undoing it. -/
inductive Undone (b : Bracket) (cause : Failure) : Failure → Prop where
  | answered : Undone b cause cause
  | refused (e : EngineError) :
      Undone b cause (.rollback cause (.executing b.undo (.ofError e)))

/-- How a bracket is left after a body with a result: the failure that is given and the texts that
are traced. The text that leaves it is followed by the one that undoes it only if it fails. -/
inductive Closing (b : Bracket) : Except Failure Unit → Option Failure → List String → Prop where
  | left : Closing b (.ok ()) none [b.leave]
  | unleft {f : Failure} (e : EngineError) (h : Undone b (.executing b.leave (.ofError e)) f) :
      Closing b (.ok ()) (some f) [b.leave, b.undo]
  | failed {cause f : Failure} (h : Undone b cause f) :
      Closing b (.error cause) (some f) [b.undo]

mutual

/-- A step that is taken when `n` numbers were given, its report, and the numbers given after it. -/
inductive Traced : Nat → Step → Report → Nat → Prop where
  | simple {n : Nat} {s : Step} {result : Except Failure StepResult} {after : Afterwards}
      (h : s.isPlain = true) : Traced n s (.simple result after) n
  | attempt {n m : Nat} {s : Step} {report : Report} (h : Traced n s report m) :
      Traced n (.attempt s) report m
  /-- A transaction within a transaction: its body is not run, and nothing more is traced. -/
  | notBegun {n : Nat} {mode : Sql.TransactionMode} {body : List Step} {f : Failure}
      {status : Status} :
      Traced n (.transaction mode body)
        (.bracket [] [] (some f) ⟨[(Bracket.transaction mode).enter], status⟩) n
  | transaction {n m : Nat} {mode : Sql.TransactionMode} {body : List Step}
      {reports : List Report} {result : Except Failure Unit} {failure : Option Failure}
      {after : Afterwards} (hbody : TracedBody n body reports result m)
      (hclosing : Closing (.transaction mode) result failure after.traced) :
      Traced n (.transaction mode body)
        (.bracket [(Bracket.transaction mode).enter] reports failure after) m
  /-- A name that cannot be prepared: the body is not run, and nothing is traced. -/
  | notEntered {n : Nat} {name : String} {body : List Step} {f : Failure} {status : Status}
      (hname : '\x00' ∈ name.toList) :
      Traced n (.savepoint (some name) body) (.bracket [] [] (some f) ⟨[], status⟩) n
  | named {n m : Nat} {name : String} {body : List Step} {reports : List Report}
      {result : Except Failure Unit} {failure : Option Failure} {after : Afterwards}
      (hbody : TracedBody n body reports result m)
      (hclosing : Closing (.savepoint name) result failure after.traced) :
      Traced n (.savepoint (some name) body)
        (.bracket [(Bracket.savepoint name).enter] reports failure after) m
  | numbered {n m : Nat} {body : List Step} {reports : List Report}
      {result : Except Failure Unit} {failure : Option Failure} {after : Afterwards}
      (hbody : TracedBody (n + 1) body reports result m)
      (hclosing : Closing (.savepoint (toString (n + 1))) result failure after.traced) :
      Traced n (.savepoint none body)
        (.bracket [(Bracket.savepoint (toString (n + 1))).enter] reports failure after) m

/-- The same of the steps of a body, up to the one whose failure ends it. -/
inductive TracedBody : Nat → List Step → List Report → Except Failure Unit → Nat → Prop where
  | nil {n : Nat} : TracedBody n [] [] (.ok ()) n
  | stop {n m : Nat} {s : Step} {rest : List Step} {report : Report} {f : Failure}
      (h : Traced n s report m) (hf : report.failure? = some f) (hs : s.isAttempt = false) :
      TracedBody n (s :: rest) [report] (.error f) m
  | next {n m k : Nat} {s : Step} {rest : List Step} {report : Report} {reports : List Report}
      {result : Except Failure Unit} (h : Traced n s report m)
      (hgo : report.failure? = none ∨ s.isAttempt = true)
      (hrest : TracedBody m rest reports result k) :
      TracedBody n (s :: rest) (report :: reports) result k

end

/-- The same of the steps of a script, all of which are taken. -/
inductive TracedAll : Nat → List Step → List Report → Nat → Prop where
  | nil {n : Nat} : TracedAll n [] [] n
  | cons {n m k : Nat} {s : Step} {rest : List Step} {report : Report} {reports : List Report}
      (h : Traced n s report m) (hrest : TracedAll m rest reports k) :
      TracedAll n (s :: rest) (report :: reports) k

/-! ## Numbers -/

mutual

/-- The texts that entered savepoints without names in the course of a step, the first one first. -/
def enteredUnnamed : Step → Report → List String
  | .savepoint none body, .bracket before reports _ _ => before ++ allEnteredUnnamed body reports
  | .savepoint (some _) body, .bracket _ reports _ _ => allEnteredUnnamed body reports
  | .transaction _ body, .bracket _ reports _ _ => allEnteredUnnamed body reports
  | .attempt s, report => enteredUnnamed s report
  | _, _ => []

/-- The same of steps and their reports. -/
def allEnteredUnnamed : List Step → List Report → List String
  | s :: rest, report :: reports => enteredUnnamed s report ++ allEnteredUnnamed rest reports
  | _, _ => []

end

/-- The texts that enter savepoints with the numbers above `n` up to `m`. -/
def numberedTexts (n m : Nat) : List String :=
  (List.range' (n + 1) (m - n)).map fun k => (Bracket.savepoint (toString k)).enter

theorem numberedTexts_self (n : Nat) : numberedTexts n n = [] := by
  rw [numberedTexts, Nat.sub_self]
  rfl

theorem numberedTexts_append {n m k : Nat} (h : n ≤ m) (h' : m ≤ k) :
    numberedTexts n m ++ numberedTexts m k = numberedTexts n k := by
  have hlength : k - n = (m - n) + (k - m) := by omega
  have hstart : m + 1 = n + 1 + 1 * (m - n) := by omega
  rw [numberedTexts, numberedTexts, numberedTexts, ← List.map_append, hlength, hstart,
    List.range'_append]

theorem numberedTexts_succ (n : Nat) :
    numberedTexts n (n + 1) = [(Bracket.savepoint (toString (n + 1))).enter] := by
  rw [numberedTexts, Nat.add_sub_cancel_left]
  rfl

theorem enteredUnnamed_plain {s : Step} (h : s.isPlain = true) (report : Report) :
    enteredUnnamed s report = [] := by
  cases s with
  | transaction | savepoint | attempt => cases h
  | _ => rw [enteredUnnamed] <;> simp

theorem allEnteredUnnamed_nil (steps : List Step) : allEnteredUnnamed steps [] = [] := by
  cases steps <;> rfl

mutual

/-- The numbers that a step gives are the next ones, in the order of the savepoints. -/
theorem Traced.numbers {n m : Nat} {s : Step} {report : Report} (h : Traced n s report m) :
    n ≤ m ∧ enteredUnnamed s report = numberedTexts n m := by
  cases h with
  | simple h =>
      rw [numberedTexts_self]
      exact ⟨Nat.le_refl n, enteredUnnamed_plain h _⟩
  | attempt h =>
      rw [enteredUnnamed]
      exact h.numbers
  | notBegun =>
      rw [numberedTexts_self]
      exact ⟨Nat.le_refl n, allEnteredUnnamed_nil _⟩
  | transaction hbody hclosing => exact hbody.numbers
  | notEntered hname =>
      rw [numberedTexts_self]
      exact ⟨Nat.le_refl n, allEnteredUnnamed_nil _⟩
  | named hbody hclosing => exact hbody.numbers
  | numbered hbody hclosing =>
      obtain ⟨hle, hentered⟩ := hbody.numbers
      refine ⟨Nat.le_of_succ_le hle, ?_⟩
      rw [enteredUnnamed, hentered, ← numberedTexts_succ]
      exact numberedTexts_append (Nat.le_succ n) hle

theorem TracedBody.numbers {n m : Nat} {steps : List Step} {reports : List Report}
    {result : Except Failure Unit} (h : TracedBody n steps reports result m) :
    n ≤ m ∧ allEnteredUnnamed steps reports = numberedTexts n m := by
  cases h with
  | nil =>
      rw [numberedTexts_self]
      exact ⟨Nat.le_refl n, rfl⟩
  | stop h hf hs =>
      obtain ⟨hle, hentered⟩ := h.numbers
      refine ⟨hle, ?_⟩
      rw [allEnteredUnnamed, hentered, allEnteredUnnamed_nil, List.append_nil]
  | next h hgo hrest =>
      obtain ⟨hle, hentered⟩ := h.numbers
      obtain ⟨hle', hentered'⟩ := hrest.numbers
      refine ⟨Nat.le_trans hle hle', ?_⟩
      rw [allEnteredUnnamed, hentered, hentered']
      exact numberedTexts_append hle hle'

end

theorem TracedAll.numbers {n m : Nat} {steps : List Step} {reports : List Report}
    (h : TracedAll n steps reports m) :
    n ≤ m ∧ allEnteredUnnamed steps reports = numberedTexts n m := by
  induction h with
  | nil =>
      rw [numberedTexts_self]
      exact ⟨Nat.le_refl _, rfl⟩
  | cons h hrest ih =>
      obtain ⟨hle, hentered⟩ := h.numbers
      refine ⟨Nat.le_trans hle ih.1, ?_⟩
      rw [allEnteredUnnamed, hentered, ih.2]
      exact numberedTexts_append hle ih.1

/-! ## Steps -/

mutual

/-- A step throughout which texts are traced, if they were before it: it never says otherwise. -/
def KeepsTracing : Step → Prop
  | .tracing b => b = true
  | .transaction _ body => AllKeepTracing body
  | .savepoint _ body => AllKeepTracing body
  | .attempt s => KeepsTracing s
  | _ => True

/-- The same of the steps of a body. -/
def AllKeepTracing : List Step → Prop
  | [] => True
  | s :: rest => KeepsTracing s ∧ AllKeepTracing rest

end

variable {b : Bracket} {enter leave undo : Sql.Control} {c d : Connection}

theorem trace_tracing_traced (hc : c.tracing = true) (sql : String) :
    (c.trace sql).traced = c.traced ++ [sql] := by
  rw [Connection.trace, if_pos hc]

/-- Undoing the work of a bracket traces one text. -/
theorem rollBack_undone (h : b.Controls enter leave undo) (cause : Failure) (hd : d.tracing = true) :
    Undone b cause (b.rollBack cause d).1 ∧
      (b.rollBack cause d).2.traced = d.traced ++ [b.undo] ∧
      (b.rollBack cause d).2.tracing = true := by
  rw [Bracket.rollBack_apply h]
  cases d.engine.store.control undo with
  | ok s => exact ⟨.answered, trace_tracing_traced hd _, (d.trace_tracing _).trans hd⟩
  | error e => exact ⟨.refused e, trace_tracing_traced hd _, (d.trace_tracing _).trans hd⟩

/-- A bracket is left in one of three ways. -/
theorem close_closing (h : b.Controls enter leave undo) (result : Except Failure Unit)
    (hd : d.tracing = true) :
    ∃ failure sqls, Closing b result failure sqls ∧
      (match (b.close result d).1 with
        | .error failure => some failure
        | .ok () => none) = failure ∧
      (b.close result d).2.traced = d.traced ++ sqls ∧ (b.close result d).2.tracing = true := by
  cases result with
  | error cause =>
      obtain ⟨hundone, htraced, htracing⟩ := rollBack_undone h cause hd
      refine ⟨_, _, .failed hundone, ?_⟩
      rw [Bracket.close_error]
      exact ⟨rfl, htraced, htracing⟩
  | ok a =>
      rw [Bracket.close_ok h]
      have hleave := trace_tracing_traced hd b.leave
      cases d.engine.store.control leave with
      | ok s => exact ⟨_, _, .left, rfl, hleave, (d.trace_tracing _).trans hd⟩
      | error e =>
          obtain ⟨hundone, htraced, htracing⟩ := rollBack_undone h
            (.executing b.leave (.ofError e)) ((d.trace_tracing b.leave).trans hd)
          refine ⟨_, _, .unleft e hundone, ?_⟩
          dsimp only
          rw [Bracket.close_error, htraced, hleave, List.append_assoc]
          exact ⟨rfl, rfl, htracing⟩

/-- A bracket that is entered is reported with the text that enters it, its body and how it was
left. -/
theorem bracketed_closing (h : b.Controls enter leave undo)
    {body : StateM Connection (List Report × Except Failure Unit)} {s : Store}
    (henter : c.engine.store.control enter = .ok s) (hc : c.tracing = true) (hnone : c.traced = [])
    (hd : d = ((c.trace b.enter).withStore s).untraced) (hbody : (body d).2.tracing = true)
    (hbodyNone : (body d).2.traced = []) :
    ∃ failure after,
      (bracketed b body c).1 = .bracket [b.enter] (body d).1.1 failure after ∧
        Closing b (body d).1.2 failure after.traced ∧
        (bracketed b body c).2.tracing = true ∧
        (bracketed b body c).2.savepoints = (body d).2.savepoints := by
  have hrun := run_control h.enter c
  rw [Connection.control, henter] at hrun
  obtain ⟨_, sqls, hclosing, rfl, htraced, htracing⟩ := close_closing h (body d).1.2 hbody
  have hbefore : ((c.trace b.enter).withStore s).traced = [b.enter] := by
    have htext := trace_tracing_traced hc b.enter
    rwa [hnone, List.nil_append] at htext
  rw [hbodyNone, List.nil_append] at htraced
  rw [bracketed_entered hrun, ← hd, hbefore]
  refine ⟨_, _, rfl, ?_, htracing, close_savepoints b _ _⟩
  rw [htraced]
  exact hclosing

theorem take_plain {s : Step} (h : s.isPlain = true) (c : Connection) :
    take s c =
      (.simple (s.act c).1 ⟨(s.act c).2.traced, (s.act c).2.status⟩, (s.act c).2.untraced) := by
  cases s with
  | transaction | savepoint | attempt => cases h
  | _ => exact take_simple (by rw [take] <;> simp) c

/-- A step without a body keeps tracing. -/
theorem act_keepsTracing {s : Step} (h : s.isPlain = true) (hs : KeepsTracing s)
    (hc : c.tracing = true) : (s.act c).2.tracing = true := by
  by_cases htracing : ∃ b, s = .tracing b
  · obtain ⟨b, rfl⟩ := htracing
    exact hs
  · exact (steady_act (fun b hb => htracing ⟨b, hb⟩) c).trans hc

theorem traced_plain {s : Step} (h : s.isPlain = true) (hs : KeepsTracing s)
    (hc : c.tracing = true) :
    Traced c.savepoints s (take s c).1 (take s c).2.savepoints ∧ (take s c).2.tracing = true := by
  rw [take_plain h c, Connection.untraced_savepoints, act_savepoints]
  exact ⟨.simple h, act_keepsTracing h hs hc⟩

mutual

/-- A step is reported as its brackets are nested, if texts are traced. -/
theorem take_traced_shape (s : Step) (c : Connection) (hs : KeepsTracing s)
    (hc : c.tracing = true) (hnone : c.traced = []) :
    Traced c.savepoints s (take s c).1 (take s c).2.savepoints ∧
      (take s c).2.tracing = true := by
  cases s with
  | transaction mode body =>
      cases hbegin : c.engine.store.begin with
      | error e =>
          rw [take_transaction_refused hbegin, Connection.texts, if_pos hc, hnone]
          exact ⟨.notBegun, hc⟩
      | ok s =>
          obtain ⟨hbody, htracing⟩ := takeBody_traced_shape body (begun mode c s) hs
            ((c.trace_tracing _).trans hc) rfl
          obtain ⟨failure, after, hreport, hclosing, hend, hcount⟩ :=
            bracketed_closing (Bracket.controls_transaction mode) hbegin hc hnone rfl htracing
              (takeBody_traced body rfl)
          have hsame : (begun mode c s).savepoints = c.savepoints := c.trace_savepoints _
          rw [take, hreport, hcount, ← hsame]
          exact ⟨.transaction hbody hclosing, hend⟩
  | savepoint name body =>
      by_cases hname : '\x00' ∈ (c.savepointName name).toList
      · cases name with
        | none => exact absurd hname (Connection.nul_notMem_savepointName c)
        | some n =>
            obtain ⟨fault, htake⟩ := take_savepoint_refused hname
            rw [htake, hnone]
            exact ⟨.notEntered hname, hc⟩
      · let e := (Connection.savepointBracket name c).2
        have he : e.tracing = true ∧ e.traced = [] := by cases name <;> exact ⟨hc, hnone⟩
        obtain ⟨hbody, htracing⟩ := takeBody_traced_shape body (entered name c) hs
          ((e.trace_tracing _).trans he.1) rfl
        have hentered : entered name c = ((e.trace
            (Bracket.savepoint (c.savepointName name)).enter).withStore
              (e.engine.store.savepoint (c.savepointName name))).untraced := by
          rw [entered, savepointBracket_engine]
        obtain ⟨failure, after, hreport, hclosing, hend, hcount⟩ :=
          bracketed_closing (Bracket.controls_savepoint hname) rfl he.1 he.2 hentered htracing
            (takeBody_traced body rfl)
        have hsame : (entered name c).savepoints = e.savepoints := e.trace_savepoints _
        rw [hsame] at hbody
        rw [take, StateM.bind_apply, savepointBracket_bracket, hreport, hcount]
        cases name with
        | none => exact ⟨.numbered hbody hclosing, hend⟩
        | some n => exact ⟨.named hbody hclosing, hend⟩
  | attempt s =>
      rw [take]
      obtain ⟨htraced, htracing⟩ := take_traced_shape s c hs hc hnone
      exact ⟨.attempt htraced, htracing⟩
  | _ => exact traced_plain rfl hs hc

theorem takeBody_traced_shape (steps : List Step) (c : Connection) (hs : AllKeepTracing steps)
    (hc : c.tracing = true) (hnone : c.traced = []) :
    TracedBody c.savepoints steps (takeBody steps c).1.1 (takeBody steps c).1.2
        (takeBody steps c).2.savepoints ∧
      (takeBody steps c).2.tracing = true := by
  cases steps with
  | nil => exact ⟨.nil, hc⟩
  | cons s rest =>
      obtain ⟨hstep, htracing⟩ := take_traced_shape s c hs.1 hc hnone
      obtain ⟨hrest, hend⟩ := takeBody_traced_shape rest _ hs.2 htracing (take_traced s c)
      rw [takeBody_cons]
      cases hfailure : (take s c).1.failure? with
      | none => exact ⟨.next hstep (.inl hfailure) hrest, hend⟩
      | some f =>
          cases hattempt : s.isAttempt with
          | false => exact ⟨.stop hstep hfailure hattempt, htracing⟩
          | true => exact ⟨.next hstep (.inr hattempt) hrest, hend⟩

end

end Step

end TypedSql
