/-
Work put off.

One system answers each input at once.  Another looks at an input first: it answers some there and
then, puts the others by, and does their work later, in whatever order, while all else goes on.
`Deferred` is the three functions of the two systems, and `Matches` says what they have to do with
each other, one step at a time: an answer given early is the one given at once, and so is the
answer given late, in whatever state the system is by then.

From that, whatever the second system does the first can do too (`Deferred.matches_run`): with the
same answers, one after the other, to the same inputs, each taken when its answer is given.
-/
import Mathlib.Data.List.Perm.Basic
import Mathlib.Tactic.Common

universe u

/-- `direct` answers at once; `front` answers or puts by, and `back` does what was put by. -/
structure Deferred (S E I J O : Type u) where
  direct : E → I → S → O × S
  front : E → I → S → (O ⊕ J) × S
  back : E → J → S → O × S

/-- What happens to a system that puts work off: an input, the `k`-th piece of what is put by is
worked on, or something else changes the state. -/
inductive PutOff (S E I : Type u)
  | input (e : E) (i : I)
  | work (e : E) (k : Nat)
  | other (s : S)

/-- What happens to a system that does not. -/
inductive AtOnce (S E I : Type u)
  | input (e : E) (i : I)
  | other (s : S)

def PutOff.inputs {S E I : Type u} : List (PutOff S E I) → List I
  | [] => []
  | .input _ i :: rest => i :: inputs rest
  | _ :: rest => inputs rest

def AtOnce.inputs {S E I : Type u} : List (AtOnce S E I) → List I
  | [] => []
  | .input _ i :: rest => i :: inputs rest
  | _ :: rest => inputs rest

namespace Deferred

variable {S E I J O : Type u}

/-! ### The two systems -/

/-- One event of the system that puts work off; what is put by is kept in order. -/
def putOffStep (d : Deferred S E I J O) (s : S) (waiting : List J) :
    PutOff S E I → List O × S × List J
  | .input e i =>
      match d.front e i s with
      | (.inl o, s) => ([o], s, waiting)
      | (.inr j, s) => ([], s, waiting ++ [j])
  | .work e k =>
      match waiting[k]? with
      | none => ([], s, waiting)
      | some j =>
          let (o, s) := d.back e j s
          ([o], s, waiting.eraseIdx k)
  | .other s => ([], s, waiting)

def atOnceStep (d : Deferred S E I J O) (s : S) : AtOnce S E I → List O × S
  | .input e i =>
      let (o, s) := d.direct e i s
      ([o], s)
  | .other s => ([], s)

/-- The answers of a run, with the state and what waits at its end. -/
def putOffRun (d : Deferred S E I J O) (s : S) (waiting : List J) :
    List (PutOff S E I) → List O × S × List J
  | [] => ([], s, waiting)
  | ev :: rest =>
      let (os, s, waiting) := d.putOffStep s waiting ev
      let (os', s, waiting) := d.putOffRun s waiting rest
      (os ++ os', s, waiting)

def atOnceRun (d : Deferred S E I J O) (s : S) : List (AtOnce S E I) → List O × S
  | [] => ([], s)
  | ev :: rest =>
      let (os, s) := d.atOnceStep s ev
      let (os', s) := d.atOnceRun s rest
      (os ++ os', s)

/-! ### One matches the other -/

/-- What the three functions have to do with each other.  `Rel` relates the states of the two
systems, `Cfg` is kept throughout, `Ok` is asked of inputs, and `Stands i j` says that `j` was put
by for `i`. -/
structure Matches (d : Deferred S E I J O) (Rel : S → S → Prop) (Cfg : S → Prop) (Ok : I → Prop)
    (Stands : I → J → Prop) (same : O → O → Prop) : Prop where
  early : ∀ {e i s t o s'}, Rel s t → Cfg s → Ok i → d.front e i s = (.inl o, s') →
    same o (d.direct e i t).1 ∧ Rel s' (d.direct e i t).2 ∧ Cfg s'
  putBy : ∀ {e i s t j s'}, Rel s t → Cfg s → Ok i → d.front e i s = (.inr j, s') →
    Stands i j ∧ Rel s' t ∧ Cfg s'
  late : ∀ {e i j s t}, Rel s t → Cfg s → Ok i → Stands i j →
    same (d.back e j s).1 (d.direct e i t).1 ∧ Rel (d.back e j s).2 (d.direct e i t).2 ∧
      Cfg (d.back e j s).2
  refl : ∀ s, Rel s s

/-- The inputs of the events meet `Ok`, and the states others leave meet `Cfg`. -/
def Allowed (Cfg : S → Prop) (Ok : I → Prop) : PutOff S E I → Prop
  | .input _ i => Ok i
  | .work _ _ => True
  | .other s => Cfg s

variable {d : Deferred S E I J O} {Rel : S → S → Prop} {Cfg : S → Prop} {Ok : I → Prop}
  {Stands : I → J → Prop} {same : O → O → Prop}

/-- What waits, with the inputs it waits for. -/
abbrev Waits (Ok : I → Prop) (Stands : I → J → Prop) (is : List I) (js : List J) : Prop :=
  List.Forall₂ (fun i j => Ok i ∧ Stands i j) is js

theorem Waits.get {is : List I} {js : List J} (h : Waits Ok Stands is js) {k : Nat} {j : J}
    (hj : js[k]? = some j) :
    ∃ i, (Ok i ∧ Stands i j) ∧ is.Perm (i :: is.eraseIdx k) ∧
      Waits Ok Stands (is.eraseIdx k) (js.eraseIdx k) := by
  induction h generalizing k with
  | nil => cases hj
  | @cons i₀ j₀ is js hhead hrest ih =>
      cases k with
      | zero =>
          obtain rfl : j₀ = j := Option.some.inj hj
          exact ⟨i₀, hhead, List.Perm.refl _, hrest⟩
      | succ k =>
          obtain ⟨i, hij, hperm, hwaits⟩ := ih hj
          refine ⟨i, hij, ?_, List.Forall₂.cons hhead hwaits⟩
          exact (hperm.cons i₀).trans (List.Perm.swap i i₀ _)

/-- One event of the system that puts work off is none or one of the other's. -/
theorem Matches.step (hd : d.Matches Rel Cfg Ok Stands same) {s t : S} {is : List I} {js : List J}
    (hrel : Rel s t) (hcfg : Cfg s) (hwaits : Waits Ok Stands is js) {ev : PutOff S E I}
    (hev : Allowed Cfg Ok ev) :
    ∃ evs' is', List.Forall₂ same (d.putOffStep s js ev).1 (d.atOnceRun t evs').1 ∧
      Rel (d.putOffStep s js ev).2.1 (d.atOnceRun t evs').2 ∧ Cfg (d.putOffStep s js ev).2.1 ∧
      Waits Ok Stands is' (d.putOffStep s js ev).2.2 ∧
      (is ++ PutOff.inputs [ev]).Perm (AtOnce.inputs evs' ++ is') := by
  cases ev with
  | input e i =>
      rcases hfront : d.front e i s with ⟨o | j, s'⟩
      · have hstep : d.putOffStep s js (.input e i) = ([o], s', js) := by
          simp only [putOffStep, hfront]
        obtain ⟨hsame, hrel', hcfg'⟩ := hd.early hrel hcfg hev hfront
        rw [hstep]
        refine ⟨[.input e i], is, List.Forall₂.cons hsame List.Forall₂.nil, hrel', hcfg', hwaits,
          ?_⟩
        exact List.perm_append_comm
      · have hstep : d.putOffStep s js (.input e i) = ([], s', js ++ [j]) := by
          simp only [putOffStep, hfront]
        obtain ⟨hstands, hrel', hcfg'⟩ := hd.putBy hrel hcfg hev hfront
        rw [hstep]
        refine ⟨[], is ++ [i], List.Forall₂.nil, hrel', hcfg', ?_, List.Perm.refl _⟩
        exact List.rel_append hwaits (List.Forall₂.cons ⟨hev, hstands⟩ List.Forall₂.nil)
  | work e k =>
      rcases hj : js[k]? with _ | j
      · have hstep : d.putOffStep s js (.work e k) = ([], s, js) := by
          simp only [putOffStep, hj]
        rw [hstep]
        refine ⟨[], is, List.Forall₂.nil, hrel, hcfg, hwaits, ?_⟩
        show (is ++ []).Perm is
        rw [List.append_nil]
      · have hstep : d.putOffStep s js (.work e k) =
            ([(d.back e j s).1], (d.back e j s).2, js.eraseIdx k) := by
          simp only [putOffStep, hj]
        obtain ⟨i, ⟨hok, hstands⟩, hperm, hwaits'⟩ := hwaits.get hj
        obtain ⟨hsame, hrel', hcfg'⟩ := hd.late (e := e) hrel hcfg hok hstands
        rw [hstep]
        refine ⟨[.input e i], is.eraseIdx k, List.Forall₂.cons hsame List.Forall₂.nil, hrel', hcfg',
          hwaits', ?_⟩
        show (is ++ []).Perm (i :: is.eraseIdx k)
        rw [List.append_nil]
        exact hperm
  | other s' =>
      refine ⟨[.other s'], is, List.Forall₂.nil, hd.refl s', hev, hwaits, ?_⟩
      show (is ++ []).Perm is
      rw [List.append_nil]

theorem atOnceRun_append (d : Deferred S E I J O) (t : S) (evs evs' : List (AtOnce S E I)) :
    d.atOnceRun t (evs ++ evs') =
      ((d.atOnceRun t evs).1 ++ (d.atOnceRun (d.atOnceRun t evs).2 evs').1,
        (d.atOnceRun (d.atOnceRun t evs).2 evs').2) := by
  induction evs generalizing t with
  | nil => rfl
  | cons ev rest ih =>
      simp only [List.cons_append, atOnceRun, ih, List.append_assoc]

theorem inputs_append (evs evs' : List (AtOnce S E I)) :
    AtOnce.inputs (evs ++ evs') = AtOnce.inputs evs ++ AtOnce.inputs evs' := by
  induction evs with
  | nil => rfl
  | cons ev rest ih =>
      cases ev with
      | input e i => exact congrArg (i :: ·) ih
      | other s => exact ih

theorem inputs_cons (ev : PutOff S E I) (evs : List (PutOff S E I)) :
    PutOff.inputs (ev :: evs) = PutOff.inputs [ev] ++ PutOff.inputs evs := by
  cases ev with
  | input e i => rfl
  | work e k => rfl
  | other s => rfl

/--
**Work put off is work done later.**  Whatever a system does that puts work off, the one that
answers at once does too: the same answers in the same order, to the inputs of the first but for
those that still wait.
-/
theorem Matches.run (hd : d.Matches Rel Cfg Ok Stands same) {s t : S} {is : List I} {js : List J}
    (hrel : Rel s t) (hcfg : Cfg s) (hwaits : Waits Ok Stands is js) {evs : List (PutOff S E I)}
    (hevs : ∀ ev ∈ evs, Allowed Cfg Ok ev) :
    ∃ evs' is', List.Forall₂ same (d.putOffRun s js evs).1 (d.atOnceRun t evs').1 ∧
      Rel (d.putOffRun s js evs).2.1 (d.atOnceRun t evs').2 ∧ Cfg (d.putOffRun s js evs).2.1 ∧
      Waits Ok Stands is' (d.putOffRun s js evs).2.2 ∧
      (is ++ PutOff.inputs evs).Perm (AtOnce.inputs evs' ++ is') := by
  induction evs generalizing s t is js with
  | nil =>
      refine ⟨[], is, List.Forall₂.nil, hrel, hcfg, hwaits, ?_⟩
      show (is ++ []).Perm is
      rw [List.append_nil]
  | cons ev rest ih =>
      obtain ⟨evs₁, is₁, hsame₁, hrel₁, hcfg₁, hwaits₁, hperm₁⟩ :=
        hd.step hrel hcfg hwaits (hevs ev List.mem_cons_self)
      obtain ⟨evs₂, is₂, hsame₂, hrel₂, hcfg₂, hwaits₂, hperm₂⟩ :=
        ih hrel₁ hcfg₁ hwaits₁ fun ev' hev' => hevs ev' (List.mem_cons_of_mem ev hev')
      refine ⟨evs₁ ++ evs₂, is₂, ?_⟩
      rw [atOnceRun_append, inputs_append, inputs_cons]
      refine ⟨List.rel_append hsame₁ hsame₂, hrel₂, hcfg₂, hwaits₂, ?_⟩
      -- What waited after the first event is worked on in the others, or waits still.
      calc (is ++ (PutOff.inputs [ev] ++ PutOff.inputs rest))
          = (is ++ PutOff.inputs [ev]) ++ PutOff.inputs rest := (List.append_assoc _ _ _).symm
        _ |>.Perm ((AtOnce.inputs evs₁ ++ is₁) ++ PutOff.inputs rest) := hperm₁.append_right _
        _ = AtOnce.inputs evs₁ ++ (is₁ ++ PutOff.inputs rest) := List.append_assoc _ _ _
        _ |>.Perm (AtOnce.inputs evs₁ ++ (AtOnce.inputs evs₂ ++ is₂)) := hperm₂.append_left _
        _ = (AtOnce.inputs evs₁ ++ AtOnce.inputs evs₂) ++ is₂ := (List.append_assoc _ _ _).symm

end Deferred
