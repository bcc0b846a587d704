import SchemaTyping.Proofs.Replay.Locality

/-!
# Logs that touch different tables

Two teams write migrations for tables of their own, and the files are ordered
by date. In which order the operations of the two come to stand does not
matter: **every interleaving of logs that touch no table in common** replays
to what the one log and then the other replay to, and as many operations are
applied and as many skipped.

The induction is on the interleaving. A step of the first log is the first
step in both orders. A step of the second log has the whole first log before
it in the other order, and it moves to the front one operation at a time:
operations on different tables commute (`Schema.replayStep_comm`), because
neither changes what the other reads.
-/

namespace SchemaTyping

universe u v

/-! ## Interleavings -/

/-- **The third list interleaves the other two**: it has the elements of both,
those of each in their own order. -/
inductive Interleaves {α : Type u} : List α → List α → List α → Prop
  | nil : Interleaves [] [] []
  | first {a : α} {as bs rest : List α} (h : Interleaves as bs rest) :
      Interleaves (a :: as) bs (a :: rest)
  | second {b : α} {as bs rest : List α} (h : Interleaves as bs rest) :
      Interleaves as (b :: bs) (b :: rest)

section Fold

variable {α : Type u} {β : Type v} {step : β → α → β}

/-- A step that commutes with all the steps of a list may come before them. -/
theorem foldl_step_comm {b : α} {as : List α}
    (h : ∀ a ∈ as, ∀ state, step (step state b) a = step (step state a) b)
    (state : β) : as.foldl step (step state b) = step (as.foldl step state) b := by
  induction as generalizing state with
  | nil => rfl
  | cons a as ih =>
    obtain ⟨ha, has⟩ := List.forall_mem_cons.mp h
    rw [List.foldl_cons, ha state, ih has, List.foldl_cons]

/-- **Interleaved steps** come to the same as the steps of one list after
those of the other, if steps of different lists commute. -/
theorem Interleaves.foldl_eq {as bs list : List α}
    (hlist : Interleaves as bs list)
    (h : ∀ a ∈ as, ∀ b ∈ bs, ∀ state,
      step (step state b) a = step (step state a) b) (state : β) :
    list.foldl step state = (as ++ bs).foldl step state := by
  induction hlist generalizing state with
  | nil => rfl
  | first _ ih => exact ih (fun a ha => h a (List.mem_cons_of_mem _ ha)) _
  | @second b as bs rest _ ih =>
    have hrest := ih fun a ha c hc => h a ha c (List.mem_cons_of_mem _ hc)
    have hfront : ∀ a ∈ as, ∀ state,
        step (step state b) a = step (step state a) b :=
      fun a ha => h a ha b List.mem_cons_self
    calc (b :: rest).foldl step state
        = (as ++ bs).foldl step (step state b) := hrest (step state b)
      _ = bs.foldl step (as.foldl step (step state b)) := List.foldl_append
      _ = bs.foldl step (step (as.foldl step state) b) := by
        rw [foldl_step_comm hfront state]
      _ = (as ++ b :: bs).foldl step state := by
        rw [List.foldl_append, List.foldl_cons]

end Fold

/-! ## Operations on different tables -/

/-- The order in which operations are counted does not matter. -/
theorem ReplayCount.add_right_comm (count : ReplayCount) (a b : Bool) :
    (count.add a).add b = (count.add b).add a := by
  cases a <;> cases b <;> rfl

namespace Schema

variable {operation other : Operation}

/-- An operation on other tables comes before unnoticed. -/
theorem perform_agreesOn_touched (schema : Schema)
    (h : ∀ name ∈ operation.touched, name ∉ other.touched) :
    (schema.perform other).AgreesOn {name | name ∈ operation.touched} schema :=
  schema.perform_agreesOn fun name hother hname => h name hname hother

theorem isSome_perform?_perform (schema : Schema)
    (h : ∀ name ∈ operation.touched, name ∉ other.touched) :
    ((schema.perform other).perform? operation).isSome
      = (schema.perform? operation).isSome :=
  (schema.perform_agreesOn_touched h).isSome_perform? fun _ hname => hname

/-- A table that the operation touches is what the operation alone makes of
it, whichever of the two comes first. -/
theorem table?_perform_perform (schema : Schema)
    (h : ∀ name ∈ operation.touched, name ∉ other.touched) {key : String}
    (hkey : key ∈ operation.touched) :
    ((schema.perform other).perform operation).table? key
      = ((schema.perform operation).perform other).table? key :=
  calc ((schema.perform other).perform operation).table? key
      = (schema.perform operation).table? key :=
        (schema.perform_agreesOn_touched h).perform (fun _ hname => hname)
          key hkey
    _ = ((schema.perform operation).perform other).table? key :=
        ((schema.perform operation).table?_perform (h key hkey)).symm

/-- **Operations on different tables commute.** -/
theorem perform_perform_comm (schema : Schema)
    (h : ∀ name ∈ operation.touched, name ∉ other.touched) :
    (schema.perform other).perform operation
      = (schema.perform operation).perform other := by
  have hsymm : ∀ name ∈ other.touched, name ∉ operation.touched :=
    fun name hother hname => h name hname hother
  refine ext_table? fun key => ?_
  by_cases hkey : key ∈ operation.touched
  · exact schema.table?_perform_perform h hkey
  · by_cases hother : key ∈ other.touched
    · exact (schema.table?_perform_perform hsymm hother).symm
    · rw [table?_perform _ hkey, table?_perform _ hother,
        table?_perform _ hother, table?_perform _ hkey]

/-- The steps of a replay commute, with what they count. -/
theorem replayStep_comm
    (h : ∀ name ∈ operation.touched, name ∉ other.touched)
    (state : Schema × ReplayCount) :
    replayStep (replayStep state other) operation
      = replayStep (replayStep state operation) other := by
  have hsymm : ∀ name ∈ other.touched, name ∉ operation.touched :=
    fun name hother hname => h name hname hother
  obtain ⟨schema, count⟩ := state
  rw [replayStep_eq, replayStep_eq, replayStep_eq, replayStep_eq]
  dsimp only
  rw [schema.perform_perform_comm h, schema.isSome_perform?_perform h,
    schema.isSome_perform?_perform hsymm, ReplayCount.add_right_comm]

/-- **Independent logs may be interleaved.** If no table is touched by both of
two logs, every interleaving of them replays to the schema and to the counts
of the first log followed by the second. -/
theorem replay_interleaved (schema : Schema)
    {first second log : List Operation} (hlog : Interleaves first second log)
    (hapart : ∀ name ∈ Operation.touchedBy first,
      name ∉ Operation.touchedBy second) :
    schema.replay log = schema.replay (first ++ second) := by
  refine hlog.foldl_eq (fun operation hfirst other hsecond state => ?_) _
  exact replayStep_comm (fun name hname hother =>
    hapart name (Operation.touched_subset_touchedBy hfirst hname)
      (Operation.touched_subset_touchedBy hsecond hother)) state

/-- Accounts move to another name while orders are created, dropped and
dropped once more. -/
theorem replay_interleaved_accounts :
    let accounts : List Operation :=
      [.createTable "users" [⟨"id", .simple .id, false⟩],
        .renameTable "users" "accounts", .addTimestamps "accounts" false]
    let orders : List Operation :=
      [.addRememberToken "orders", .dropTable "orders", .dropTable "orders"]
    let log : List Operation :=
      [.createTable "users" [⟨"id", .simple .id, false⟩],
        .addRememberToken "orders", .dropTable "orders",
        .renameTable "users" "accounts", .dropTable "orders",
        .addTimestamps "accounts" false]
    Interleaves accounts orders log
      ∧ (∀ name ∈ Operation.touchedBy accounts,
          name ∉ Operation.touchedBy orders)
      ∧ empty.replay log = empty.replay (accounts ++ orders)
      ∧ (empty.replay log).2 = ⟨5, 1⟩ := by
  intro accounts orders log
  have hlog : Interleaves accounts orders log :=
    .first (.second (.second (.first (.second (.first .nil)))))
  have hapart : ∀ name ∈ Operation.touchedBy accounts,
      name ∉ Operation.touchedBy orders := by decide
  have hreplay := replay_interleaved empty hlog hapart
  exact ⟨hlog, hapart, hreplay, by rw [hreplay]; decide⟩

end Schema

end SchemaTyping
