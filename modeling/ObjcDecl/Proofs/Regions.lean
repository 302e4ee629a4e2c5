import Mathlib.Data.List.Chain
import Mathlib.Data.List.Forall2
import ObjcDecl.Naming.Prefixed
import ObjcDecl.Proofs.Emission
import ObjcDecl.Writer

/-!
# Regions are opened and closed in turn

A region without deprecation warnings is opened by a pair of pragmas and
closed by another one. Operations may open and close regions in any order,
also within the operations of a region, and the writer stops the ones that
would not fit: a run comes to its end exactly when its pushes and pops
alternate, starting with a push (`regions_disciplined`). Wherever it
stands, the pragmas that it has printed open one region more than they
close if a region is open, and as many otherwise.

`Step.actions` spreads a run out: an operation with others in it is a
push, these others, and a pop. What one action prints and does to the
region is said once (`step_acted`), and so is what may stop it
(`step_outcome`); the same of runs follows by induction (`run_logged`,
`run_outcome`).
-/

namespace ObjcDecl.Writer

/-- An operation without others in it. -/
inductive Action where
  | sink (s : Sink.Step)
  | openRegion
  | closeRegion
  | piece (p : Piece)

/-- The operation that an action is. -/
def Action.toStep : Action → Step
  | .sink s => .sink s
  | .openRegion => .openRegion
  | .closeRegion => .closeRegion
  | .piece p => .piece p

mutual

/-- The actions of an operation, in the order in which they are run. -/
def Step.actions : Step → List Action
  | .sink s => [.sink s]
  | .openRegion => [.openRegion]
  | .closeRegion => [.closeRegion]
  | .region steps => .openRegion :: actions steps ++ [.closeRegion]
  | .piece p => [.piece p]

/-- The actions of some operations, in the order in which they are run. -/
def actions : List Step → List Action
  | [] => []
  | s :: ss => s.actions ++ actions ss

end

/-- The start or the end of a region. -/
inductive Move where
  | push
  | pop
deriving DecidableEq, Repr

/-- What an action means to do to the region. -/
def Action.move? : Action → Option Move
  | .openRegion => some .push
  | .closeRegion => some .pop
  | _ => none

/-- The pushes and pops of some operations, in the order in which they are
run. -/
def moves (steps : List Step) : List Move := (actions steps).filterMap Action.move?

/-- Pushes and pops that take turns, a push first. -/
structure Alternating (ms : List Move) : Prop where
  start : ms.head? ≠ some .pop
  turns : ms.IsChain (· ≠ ·)

/-- What an action prints: the pragmas of a region, or a text of its own. -/
inductive Output where
  | pragma (m : Move)
  | text (t : String)
deriving DecidableEq, Repr

/-- The lines that the start or the end of a region prints. -/
def Move.lines : Move → List String
  | .push =>
    ["#pragma clang diagnostic push",
      "#pragma GCC diagnostic ignored \"-Wdeprecated-declarations\""]
  | .pop => ["#pragma clang diagnostic pop"]

/-- The printed text. -/
def Output.toString : Output → String
  | .pragma m => String.join (m.lines.map (· ++ "\n"))
  | .text t => t

/-- Where regions are wanted, their pragmas are what pushes and pops
print, and nothing else prints them. -/
def Action.Prints (o : Options) (a : Action) (out : Output) : Prop :=
  match a.move? with
  | some m => out = if o.emitDeprecated then .pragma m else .text ""
  | none => ∃ t, out = .text t

/-- A run of actions, with what each of them printed. -/
structure Logged (w : Writer) (done : List Action) (w' : Writer) (outs : List Output) : Prop where
  run : w.run (done.map Action.toStep) = .ok w'
  each : List.Forall₂ (Action.Prints w.context.options) done outs
  text : w'.sink.text = w.sink.text ++ String.join (outs.map Output.toString)

/-- The number of regions opened by pragmas less the number of those closed. -/
def balance (outs : List Output) : Int := outs.count (.pragma .push) - outs.count (.pragma .pop)

/-- How many regions are open. -/
def openRegions (w : Writer) : Int := if w.regionOpen then 1 else 0

/-! ## Spreading a run out -/

theorem run_append (w : Writer) (xs ys : List Step) :
    w.run (xs ++ ys) = w.run xs >>= fun w => w.run ys := by
  induction xs generalizing w with
  | nil => simp [run]
  | cons x xs ih => simp [run, ih, bind_assoc]

theorem run_singleton (w : Writer) (s : Step) : w.run [s] = w.step s := by simp [run]

mutual

theorem run_stepActions : ∀ (s : Step) (w : Writer), w.run (s.actions.map Action.toStep) = w.step s
  | .sink _, w | .openRegion, w | .closeRegion, w | .piece _, w => run_singleton w _
  | .region steps, w => by
    have inner (w : Writer) := run_actions steps w
    simp [Step.actions, Action.toStep, run, step, run_append, inner]

/-- Running some operations is running their actions one after the other. -/
theorem run_actions : ∀ (steps : List Step) (w : Writer),
    w.run ((actions steps).map Action.toStep) = w.run steps
  | [], _ => rfl
  | s :: ss, w => by
    have rest (w : Writer) := run_actions ss w
    rw [actions, List.map_append, run_append, run_stepActions s w, run]
    simp [rest]

end

/-! ## One action -/

/-- The fault of a push or pop out of turn. -/
def Move.fault : Move → Fault
  | .push => .regionNested
  | .pop => .regionNotOpen

/-- The move that brought the region to its state. -/
def lastMove (w : Writer) : Move := if w.regionOpen then .push else .pop

/-- The writer after a move that is made. -/
def moved (w : Writer) (m : Move) : Writer :=
  { w.write (m.lines.map .flush) with regionOpen := m = .push }

/-- What an action that is not stopped prints, and what it leaves. -/
structure Acted (w : Writer) (a : Action) (w' : Writer) (out : Output) : Prop where
  prints : a.Prints w.context.options out
  text : w'.sink.text = w.sink.text ++ out.toString
  context : w'.context = w.context
  regions : w'.openRegions = w.openRegions + balance [out]
  turn : w.context.options.emitDeprecated = true → w'.lastMove = a.move?.getD w.lastMove

variable {w w' : Writer} {a : Action}

theorem text_write_flush (w : Writer) (ls : List String) :
    (w.write (ls.map .flush)).sink.text = w.sink.text ++ String.join (ls.map (· ++ "\n")) := by
  simp [write, Sink.write, Block.render, Line.render, Function.comp_def]

/-- A push or pop does nothing where no regions are wanted. Where they are,
it is stopped if it is the move that was made last. -/
theorem step_of_move {m : Move} (h : a.move? = some m) : w.step a.toStep =
    if w.context.options.emitDeprecated then
      if w.lastMove = m then .error m.fault else .ok (w.moved m)
    else .ok w := by
  cases a with
  | sink s => cases h
  | piece p => cases h
  | openRegion =>
    cases h
    rw [Action.toStep, step, openRegion, lastMove]
    cases w.regionOpen <;> rfl
  | closeRegion =>
    cases h
    rw [Action.toStep, step, closeRegion, lastMove]
    cases w.regionOpen <;> rfl

/-- Every other action prints some text, if it is a piece that can be
printed. -/
theorem step_of_text (h : a.move? = none)
    (prints : ∀ p, a = .piece p → ∃ b, p.block w.context = .ok b) :
    ∃ s t, w.step a.toStep = .ok { w with sink := s } ∧ s.text = w.sink.text ++ t := by
  cases a with
  | sink s => exact ⟨_, s.appended w.sink, rfl, rfl⟩
  | openRegion => cases h
  | closeRegion => cases h
  | piece p =>
    obtain ⟨b, hb⟩ := prints p rfl
    refine ⟨(w.write b).sink, b.render w.sink.unit w.sink.level, ?_, rfl⟩
    rw [Action.toStep, step, print, hb]
    rfl

/-- An action that is not stopped prints its pragma, or a text of its own,
and the region is open or shut accordingly. -/
theorem step_acted (h : w.step a.toStep = .ok w') : ∃ out, Acted w a w' out := by
  cases hm : a.move? with
  | none =>
    have prints : ∀ p, a = .piece p → ∃ b, p.block w.context = .ok b := by
      rintro p rfl
      cases hb : p.block w.context with
      | error f =>
        rw [Action.toStep, step, print, hb] at h
        cases h
      | ok b => exact ⟨b, rfl⟩
    obtain ⟨s, t, hs, ht⟩ := step_of_text hm prints
    obtain rfl := Except.ok.inj (h.symm.trans hs)
    exact ⟨.text t,
      { prints := by simp [Action.Prints, hm]
        text := ht
        context := rfl
        regions := by simp [balance, openRegions]
        turn := fun _ => by rw [hm]; rfl }⟩
  | some m =>
    rw [step_of_move hm] at h
    split at h
    · next emit =>
      split at h
      · cases h
      · next other =>
        cases h
        exact ⟨.pragma m,
          { prints := by simp [Action.Prints, hm, emit]
            text := text_write_flush w m.lines
            context := rfl
            regions := by
              revert other
              cases m <;> cases hr : w.regionOpen <;>
                simp [lastMove, moved, openRegions, balance, hr]
            turn := fun _ => by rw [hm]; cases m <;> rfl }⟩
    · next off =>
      cases h
      exact ⟨.text "",
        { prints := by simp [Action.Prints, hm, off]
          text := String.append_empty.symm
          context := rfl
          regions := by simp [balance]
          turn := fun emit => absurd emit off }⟩

/-- Nothing stops an action but the same move before it. -/
theorem step_outcome (prints : ∀ p, a = .piece p → ∃ b, p.block w.context = .ok b) :
    ((w.context.options.emitDeprecated = true → a.move? ≠ some w.lastMove) ∧
        ∃ w', w.step a.toStep = .ok w') ∨
      (w.context.options.emitDeprecated = true ∧ a.move? = some w.lastMove) ∧
        ∃ m : Move, w.step a.toStep = .error m.fault := by
  cases hm : a.move? with
  | none =>
    obtain ⟨s, t, hs, -⟩ := step_of_text hm prints
    exact .inl ⟨fun _ => nofun, _, hs⟩
  | some m =>
    rw [step_of_move hm]
    split
    · next emit =>
      split
      · next same => exact .inr ⟨⟨emit, by rw [same]⟩, m, rfl⟩
      · next other => exact .inl ⟨fun _ same => other (Option.some.inj same).symm, _, rfl⟩
    · next off => exact .inl ⟨fun emit => absurd emit off, _, rfl⟩

/-! ## Runs -/

theorem balance_cons (out : Output) (outs : List Output) :
    balance (out :: outs) = balance [out] + balance outs := by
  simp only [balance, List.count_cons, List.count_nil]
  omega

/-- What a run of actions prints is what its actions print, and its pragmas
say how many regions are open. -/
theorem run_logged {done : List Action} (h : w.run (done.map Action.toStep) = .ok w') :
    ∃ outs, Logged w done w' outs ∧ w'.openRegions = w.openRegions + balance outs := by
  induction done generalizing w with
  | nil =>
    cases h
    exact ⟨[], ⟨rfl, .nil, String.append_empty.symm⟩, by simp [balance]⟩
  | cons a done ih =>
    obtain ⟨v, hv, rest⟩ := Emission.bind_eq_ok.mp (show w.step a.toStep >>= _ = _ from h)
    obtain ⟨out, acted⟩ := step_acted hv
    obtain ⟨outs, logged, regions⟩ := ih rest
    refine ⟨out :: outs, ⟨h, .cons acted.prints (acted.context ▸ logged.each), ?_⟩, ?_⟩
    · simp [logged.text, acted.text, String.append_assoc]
    · rw [regions, acted.regions, balance_cons out outs, Int.add_assoc]

/-- An action that is not stopped leaves the rest of a run to take turns
with. -/
theorem Acted.isChain_iff {out : Output} (h : Acted w a w' out)
    (emit : w.context.options.emitDeprecated = true) (other : a.move? ≠ some w.lastMove)
    (done : List Action) :
    (w.lastMove :: (a :: done).filterMap Action.move?).IsChain (· ≠ ·) ↔
      (w'.lastMove :: done.filterMap Action.move?).IsChain (· ≠ ·) := by
  rw [h.turn emit]
  cases hm : a.move? with
  | none => simp [hm]
  | some m =>
    have turn : w.lastMove ≠ m := fun same => other (by rw [hm, same])
    simp [hm, turn]

/-- A run of actions comes to its end, unless regions are wanted and its
moves do not take turns after the one that was made last. Then one of them
stops it. -/
theorem run_outcome {done : List Action}
    (prints : ∀ p, .piece p ∈ done → ∃ b, p.block w.context = .ok b) :
    ((w.context.options.emitDeprecated = true →
        (w.lastMove :: done.filterMap Action.move?).IsChain (· ≠ ·)) ∧
        ∃ w', w.run (done.map Action.toStep) = .ok w') ∨
      (w.context.options.emitDeprecated = true ∧
        ¬(w.lastMove :: done.filterMap Action.move?).IsChain (· ≠ ·)) ∧
        ∃ m : Move, w.run (done.map Action.toStep) = .error m.fault := by
  induction done generalizing w with
  | nil => exact .inl ⟨fun _ => .singleton _, w, rfl⟩
  | cons a done ih =>
    rcases step_outcome (a := a) fun p h => prints p (h ▸ List.mem_cons_self) with
      ⟨other, v, hv⟩ | ⟨⟨emit, same⟩, m, stopped⟩
    · obtain ⟨out, acted⟩ := step_acted hv
      have run : w.run ((a :: done).map Action.toStep) = v.run (done.map Action.toStep) := by
        simp [Writer.run, hv]
      have rest := ih (w := v) fun p h => acted.context ▸ prints p (List.mem_cons_of_mem a h)
      rw [acted.context] at rest
      rw [run]
      refine rest.imp ?_ ?_
      · rintro ⟨turns, ended⟩
        exact ⟨fun emit => (acted.isChain_iff emit (other emit) done).mpr (turns emit), ended⟩
      · rintro ⟨⟨emit, clash⟩, stopped⟩
        exact ⟨⟨emit, mt (acted.isChain_iff emit (other emit) done).mp clash⟩, stopped⟩
    · refine .inr ⟨⟨emit, by simp [same]⟩, m, ?_⟩
      simp [Writer.run, stopped]

/-! ## Whole runs -/

/-- A writer on which nothing was printed. -/
def fresh (c : Context) : Writer := { context := c }

theorem alternating_iff {ms : List Move} :
    Alternating ms ↔ (Move.pop :: ms).IsChain (· ≠ ·) := by
  rw [List.isChain_cons]
  refine ⟨fun h => ⟨fun m hm pop => h.start (pop ▸ hm), h.turns⟩, fun h => ⟨fun pop => ?_, h.2⟩⟩
  exact h.1 .pop pop rfl

theorem finish_iff (w : Writer) : (∃ t, w.finish = .ok t) ↔ w.openRegions = 0 := by
  unfold finish openRegions
  cases w.regionOpen <;> simp

/-- Where no regions are wanted, no pragma is printed. -/
theorem not_mem_of_unwanted {o : Options} (off : o.emitDeprecated = false) {done : List Action}
    {outs : List Output} (h : List.Forall₂ (Action.Prints o) done outs) (m : Move) :
    .pragma m ∉ outs := by
  induction h with
  | nil => exact List.not_mem_nil
  | @cons a out done outs prints _ ih =>
    obtain ⟨t, rfl⟩ : ∃ t, out = .text t := by
      unfold Action.Prints at prints
      split at prints
      · exact ⟨"", by simpa [off] using prints⟩
      · exact prints
    simpa using ih

/-- How regions are kept where they are wanted, over a run of operations on
a fresh writer. -/
structure Disciplined (c : Context) (steps : List Step) : Prop where
  /-- The run comes to its end exactly when its pushes and pops take turns. -/
  ends : (∃ w, (fresh c).run steps = .ok w) ↔ Alternating (moves steps)
  /-- What stops it is a push or pop out of turn. -/
  refused : ∀ f, (fresh c).run steps = .error f → f = .regionNested ∨ f = .regionNotOpen
  /-- It runs its actions one after the other. -/
  spread : (fresh c).run steps = (fresh c).run ((actions steps).map Action.toStep)
  /-- Wherever it stands, the pragmas that it has printed leave a region
  open exactly if one is open, and it may be finished if they do not. -/
  points : ∀ done todo w, actions steps = done ++ todo →
    (fresh c).run (done.map Action.toStep) = .ok w →
    ∃ outs, Logged (fresh c) done w outs ∧ balance outs = (if w.regionOpen then 1 else 0) ∧
      ((∃ t, w.finish = .ok t) ↔ balance outs = 0)

/-- On a fresh writer, operations of any kind and nesting open and close
regions in turn or are stopped, where regions are wanted. Where they are
not, nothing stops them, no pragma is printed, and the text is finished.
Pieces have to be printable by themselves. -/
theorem regions_disciplined (c : Context) (steps : List Step)
    (prints : ∀ p, .piece p ∈ actions steps → ∃ b, p.block c = .ok b) :
    (c.options.emitDeprecated = true → Disciplined c steps) ∧
      (c.options.emitDeprecated = false →
        ∃ w outs, (fresh c).run steps = .ok w ∧ Logged (fresh c) (actions steps) w outs ∧
          (∀ m, .pragma m ∉ outs) ∧ ∃ t, w.finish = .ok t) := by
  have spread := (run_actions steps (fresh c)).symm
  have outcome := run_outcome (w := fresh c) prints
  refine ⟨fun emit => ?_, fun off => ?_⟩
  · exact
      { ends := by
          rw [spread, alternating_iff]
          rcases outcome with ⟨turns, ended⟩ | ⟨⟨-, clash⟩, m, stopped⟩
          · exact iff_of_true ended (turns emit)
          · exact iff_of_false (by simp [stopped]) clash
        refused := fun f h => by
          rcases outcome with ⟨-, w, ended⟩ | ⟨-, m, stopped⟩
          · cases (spread ▸ h).symm.trans ended
          · cases (spread ▸ h).symm.trans stopped
            cases m
            · exact .inl rfl
            · exact .inr rfl
        spread := spread
        points := fun done todo w _ h => by
          obtain ⟨outs, logged, regions⟩ := run_logged h
          have shut : (fresh c).openRegions = 0 := rfl
          rw [shut, Int.zero_add] at regions
          exact ⟨outs, logged, regions.symm, regions ▸ w.finish_iff⟩ }
  · obtain ⟨w, hw⟩ : ∃ w, (fresh c).run ((actions steps).map Action.toStep) = .ok w := by
      rcases outcome with ⟨-, ended⟩ | ⟨⟨emit, -⟩, -⟩
      · exact ended
      · exact absurd emit (by simp [fresh, off])
    obtain ⟨outs, logged, regions⟩ := run_logged hw
    have unmarked := not_mem_of_unwanted off logged.each
    have shut : w.openRegions = 0 := by
      have none : balance outs = 0 := by simp [balance, List.count_eq_zero.mpr (unmarked _)]
      rw [regions, none]
      rfl
    exact ⟨w, outs, spread ▸ hw, logged, unmarked, w.finish_iff.mpr shut⟩

/-- A region that is closed and opened again from within, and a region
opened and closed by hand around a comment. -/
def interleaved : List Step :=
  [.region [.sink (.line "first"), .closeRegion, .sink .newline, .openRegion], .openRegion,
    .piece (.doc (some (.ofText "Second."))), .closeRegion]

/-- The pushes and pops of these operations take turns, so their run comes
to its end. -/
theorem regions_interleaved :
    ({ naming := Naming.prefixed } : Context).options.emitDeprecated = true ∧
      (∀ p, .piece p ∈ actions interleaved → ∃ b, p.block { naming := Naming.prefixed } = .ok b) ∧
      moves interleaved = [.push, .pop, .push, .pop, .push, .pop] ∧
      Disciplined { naming := Naming.prefixed } interleaved := by
  have prints : ∀ p, .piece p ∈ actions interleaved →
      ∃ b, p.block { naming := Naming.prefixed } = .ok b := by
    intro p hp
    obtain rfl : p = .doc (some (.ofText "Second.")) := by
      simpa [interleaved, actions, Step.actions] using hp
    exact ⟨_, rfl⟩
  exact ⟨rfl, prints, by decide, (regions_disciplined _ _ prints).1 rfl⟩

end ObjcDecl.Writer
