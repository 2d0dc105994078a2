import CodePermit.Routine
/-!
# Manners of routines

What can be heard of a routine depends on what it is told, but some things hold whatever it is
told: a technique never announces a phase, a run never sleeps for ever.  Such a law is a property of
the tree of steps and is carried from the parts of a routine to the whole.

* `Manners` — what may be heard of a routine and how it may fail to end;
* `Routine.Keeps` — a routine keeps manners whatever it is told;
* `keeps_bind`, `keeps_timed`, `keeps_within` — how manners are carried over to composed routines;
* `Event.isAside`, `Manners.aside` — what techniques and helpers keep.
-/

namespace CodePermit

/-- What may be heard of a routine, and whether it may break down or sleep for ever. -/
structure Manners where
  /-- The events that may be observed. -/
  hears : Event → Prop
  /-- It may break down. -/
  breaksDown : Prop := True
  /-- It may sleep for ever. -/
  hangs : Prop := True

/-- The same manners, for a routine that may also sleep for ever. -/
def Manners.drowsy (m : Manners) : Manners :=
  { m with hangs := True }

namespace Routine

variable {σ α β : Type} {m : Manners}

/-- The routine keeps the manners, whatever it is told. -/
def Keeps (m : Manners) : Routine σ α → Prop
  | done _ => True
  | breakdown _ => m.breaksDown
  | hang => m.hangs
  | sleep length next => m.hears (.slept length) ∧ next.Keeps m
  | ask who next => ∀ answer, m.hears (.asked who answer) ∧ (next answer).Keeps m
  | note event next => m.hears event ∧ next.Keeps m
  | act _ next => ∀ time s, (next time s).Keeps m

/-! ### Composed routines -/

theorem keeps_bind {r : Routine σ α} {f : α → Routine σ β} (hr : r.Keeps m)
    (hf : ∀ a, (f a).Keeps m) : (r.bind f).Keeps m := by
  induction r with
  | done a => exact hf a
  | breakdown message => exact hr
  | hang => exact hr
  | sleep length next ih => exact ⟨hr.1, ih hr.2⟩
  | ask who next ih => exact fun answer => ⟨(hr answer).1, ih answer (hr answer).2⟩
  | note event next ih => exact ⟨hr.1, ih hr.2⟩
  | act change next ih => exact fun time s => ih time s (hr time s)

theorem keeps_timedFrom {r : Routine σ α} (spent : Nat) (hr : r.Keeps m) :
    (r.timedFrom spent).Keeps m := by
  induction r generalizing spent with
  | done a => trivial
  | breakdown message => exact hr
  | hang => exact hr
  | sleep length next ih => exact ⟨hr.1, ih _ hr.2⟩
  | ask who next ih => exact fun answer => ⟨(hr answer).1, ih answer _ (hr answer).2⟩
  | note event next ih => exact ⟨hr.1, ih _ hr.2⟩
  | act change next ih => exact fun time s => ih time s _ (hr time s)

theorem keeps_timed {r : Routine σ α} (hr : r.Keeps m) : r.timed.Keeps m :=
  keeps_timedFrom 0 hr

theorem keeps_pause {r : Routine σ α} {length : Nat} (hs : m.hears (.slept length))
    (hr : r.Keeps m) : (pause length r).Keeps m := by
  unfold pause
  split
  · exact hr
  · exact ⟨hs, hr⟩

theorem keeps_rest {r : Routine σ α} (length : Nat) (hs : ∀ n, m.hears (.slept n))
    (hr : r.Keeps m) : (rest length r).Keeps m :=
  keeps_pause (hs _) hr

theorem keeps_warn {r : Routine σ α} (warning : Option Warning)
    (hw : ∀ w, m.hears (.warned w)) (hr : r.Keeps m) : (warn warning r).Keeps m := by
  cases warning with
  | none => exact hr
  | some w => exact ⟨hw w, hr⟩

/-- A routine that is cut off does not sleep for ever, even if it would. -/
theorem keeps_within {r : Routine σ α} (limit : Nat) (hs : ∀ n, m.hears (.slept n))
    (hr : r.Keeps m.drowsy) : (r.within limit).Keeps m := by
  induction r generalizing limit with
  | done a => trivial
  | breakdown message => exact hr
  | hang => exact keeps_pause (hs _) trivial
  | sleep length next ih =>
    unfold within
    split
    · exact ⟨hr.1, ih _ hr.2⟩
    · exact keeps_pause (hs _) trivial
  | ask who next ih => exact fun answer => ⟨(hr answer).1, ih answer _ (hr answer).2⟩
  | note event next ih => exact ⟨hr.1, ih _ hr.2⟩
  | act change next ih => exact fun time s => ih time s _ (hr time s)

/-- Manners that allow more are kept as well. -/
theorem Keeps.mono {m' : Manners} {r : Routine σ α} (hr : r.Keeps m)
    (hh : ∀ e, m.hears e → m'.hears e) (hb : m.breaksDown → m'.breaksDown)
    (hg : m.hangs → m'.hangs) : r.Keeps m' := by
  induction r with
  | done a => trivial
  | breakdown message => exact hb hr
  | hang => exact hg hr
  | sleep length next ih => exact ⟨hh _ hr.1, ih hr.2⟩
  | ask who next ih => exact fun answer => ⟨hh _ (hr answer).1, ih answer (hr answer).2⟩
  | note event next ih => exact ⟨hh _ hr.1, ih hr.2⟩
  | act change next ih => exact fun time s => ih time s (hr time s)

end Routine

/-! ### Techniques and helpers -/

/-- The event may be observed while a technique is at work or a helper is asked: it speaks in its
own name and leaves the run to the run. -/
def Event.isAside : Event → Bool
  | asked .technique _ | requested _ | warned _ | called _ _ | slept _ => true
  | asked .run _ | published _ | inspected _ _ | attempted _ _ _ => false

/-- What techniques and helpers keep; they may break down and sleep for ever. -/
def Manners.aside : Manners where
  hears := fun e => e.isAside = true

end CodePermit
