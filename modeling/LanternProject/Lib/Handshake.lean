import Mathlib.Data.List.Induction
import Mathlib.Logic.Relation

/-! # A two-phase handshake over links that lose but do not reorder

A sender offers items of any type to a receiver, one after the other. Both ends are joined by two
links on which whatever is not lost arrives in the order it was sent. The sender repeats an `item`
until the receiver has confirmed that it holds it (`held`), and from then on a `release` until the
receiver has confirmed that it let go of it (`released`); the receiver passes a held item on at the
first `release`. Everything may be sent any number of times, late repetitions included.

* `Exchange.Sound`: what is under way on the links in each phase; every step keeps it.
* `delivered_eq`: the items passed on are the items offered, in order, but for the one under way.
* `delivered_sublist`: if the two ends may forget the item under way, what is passed on is still a
  subsequence of what was offered: nothing twice, nothing out of order. -/

namespace LanternProject.Lib.Handshake

variable {α : Type*}

/-- What the sender sends. -/
inductive Forth (α : Type*) where
  | item (a : α)
  | release

/-- What the receiver sends. -/
inductive Back where
  | held
  | released

/-- The sender waits for nothing, for `held`, or for `released`. -/
inductive Phase (α : Type*) where
  | idle
  | offering (a : α)
  | releasing (a : α)

/-- The phase after `held`. -/
def Phase.confirm : Phase α → Phase α
  | .offering a => .releasing a
  | p => p

/-- The phase after `released`. -/
def Phase.finish : Phase α → Phase α
  | .releasing _ => .idle
  | p => p

/-- What the sender repeats. -/
def Phase.again : Phase α → List (Forth α)
  | .idle => []
  | .offering a => [.item a]
  | .releasing _ => [.release]

/-- The two ends, the links, the items offered and passed on so far. -/
structure Exchange (α : Type*) where
  phase : Phase α
  held : Option α
  forth : List (Forth α)
  back : List Back
  offered : List α
  delivered : List α

/-- Nothing has been offered. -/
def Exchange.empty : Exchange α := ⟨.idle, none, [], [], [], []⟩

/-- The steps of an exchange. -/
inductive Step : Exchange α → Exchange α → Prop
  | offer (e : Exchange α) (a : α) (hp : e.phase = .idle) :
      Step e { e with
        phase := .offering a, forth := e.forth ++ [.item a], offered := e.offered ++ [a] }
  | again (e : Exchange α) : Step e { e with forth := e.forth ++ e.phase.again }
  | item (e : Exchange α) (a : α) (forth : List (Forth α)) (hf : e.forth = .item a :: forth) :
      Step e { e with held := some a, forth := forth, back := e.back ++ [.held] }
  | release (e : Exchange α) (forth : List (Forth α)) (hf : e.forth = .release :: forth) :
      Step e { e with
        held := none, forth := forth, back := e.back ++ [.released]
        delivered := e.delivered ++ e.held.toList }
  | held (e : Exchange α) (back : List Back) (hb : e.back = .held :: back) :
      Step e { e with phase := e.phase.confirm, forth := e.forth ++ [.release], back := back }
  | released (e : Exchange α) (back : List Back) (hb : e.back = .released :: back) :
      Step e { e with phase := e.phase.finish, back := back }
  | lose (e : Exchange α) (forth : List (Forth α)) (back : List Back) (hf : forth.Sublist e.forth)
      (hb : back.Sublist e.back) : Step e { e with forth := forth, back := back }

/-- Both ends forget what is under way, and the links are new. -/
def Exchange.reset (e : Exchange α) : Exchange α :=
  { e with phase := .idle, held := none, forth := [], back := [] }

/-- The steps of an exchange whose ends may forget. -/
inductive StepOrReset : Exchange α → Exchange α → Prop
  | step {e e' : Exchange α} (h : Step e e') : StepOrReset e e'
  | reset (e : Exchange α) : StepOrReset e e.reset

/-- Repeating any number of times. -/
theorem steps_again (e : Exchange α) {l : List (Forth α)} (h : ∀ x ∈ l, e.phase.again = [x]) :
    Relation.ReflTransGen Step e { e with forth := e.forth ++ l } := by
  induction l using List.reverseRecOn with
  | nil =>
    rw [List.append_nil]
  | append_singleton l x ih =>
    have hstep := Step.again { e with forth := e.forth ++ l }
    have hx : e.phase.again = [x] := h x (by simp)
    rw [hx, List.append_assoc] at hstep
    exact (ih fun y hy => h y (by simp [hy])).tail hstep

/-- Losing some of what is on the links. -/
theorem steps_lose {e e' : Exchange α} (hphase : e'.phase = e.phase) (hheld : e'.held = e.held)
    (hforth : e'.forth.Sublist e.forth) (hback : e'.back.Sublist e.back)
    (hoffered : e'.offered = e.offered) (hdelivered : e'.delivered = e.delivered) :
    Relation.ReflTransGen Step e e' := by
  obtain ⟨phase, held, forth, back, offered, delivered⟩ := e'
  obtain rfl : phase = e.phase := hphase
  obtain rfl : held = e.held := hheld
  obtain rfl : offered = e.offered := hoffered
  obtain rfl : delivered = e.delivered := hdelivered
  exact .single (Step.lose e forth back hforth hback)

/-! ### What is on the links -/

/-- The elements with `p` come first, then those with `q`. -/
def Then {β : Type*} (p q : β → Prop) (l : List β) : Prop :=
  ∃ l₁ l₂, l = l₁ ++ l₂ ∧ (∀ x ∈ l₁, p x) ∧ ∀ x ∈ l₂, q x

section Then
variable {β : Type*} {p q : β → Prop} {l : List β} {x : β}

theorem Then.of_left (h : ∀ x ∈ l, p x) : Then p q l := ⟨l, [], by simp, h, by simp⟩

theorem Then.snoc (h : Then p q l) (hx : q x) : Then p q (l ++ [x]) := by
  obtain ⟨l₁, l₂, rfl, h₁, h₂⟩ := h
  refine ⟨l₁, l₂ ++ [x], by simp, h₁, fun y hy => ?_⟩
  rcases List.mem_append.mp hy with hy | hy
  · exact h₂ y hy
  · rwa [List.mem_singleton.mp hy]

theorem Then.sublist {l' : List β} (h : Then p q l) (hl : l'.Sublist l) : Then p q l' := by
  obtain ⟨l₁, l₂, rfl, h₁, h₂⟩ := h
  obtain ⟨k₁, k₂, rfl, hk₁, hk₂⟩ := List.sublist_append_iff.mp hl
  exact ⟨k₁, k₂, rfl, fun y hy => h₁ y (hk₁.subset hy), fun y hy => h₂ y (hk₂.subset hy)⟩

theorem Then.tail (h : Then p q (x :: l)) : Then p q l := h.sublist (List.sublist_cons_self x l)

/-- Once an element without `p` is first, the elements with `p` are over. -/
theorem Then.right_of_head (h : Then p q (x :: l)) (hx : ¬ p x) : ∀ y ∈ x :: l, q y := by
  obtain ⟨l₁, l₂, hl, h₁, h₂⟩ := h
  cases l₁ with
  | nil =>
    rw [List.nil_append] at hl
    rwa [hl]
  | cons y l₁ =>
    obtain ⟨rfl, -⟩ := List.cons.inj hl
    exact absurd (h₁ x List.mem_cons_self) hx

end Then

/-- **What is under way in each phase.** While an item is offered, releases left over from earlier
ones come before it; once it is confirmed, its last repetitions come before its releases. The other
way, the confirmations of an item come after what is left over from earlier ones, and before the
confirmations of its release. -/
def Exchange.Sound (e : Exchange α) : Prop :=
  match e.phase, e.held with
  | .idle, none => (∀ x ∈ e.forth, x = .release) ∧ ∀ x ∈ e.back, x = .released
  | .idle, some _ => False
  | .offering a, none => Then (· = .release) (· = .item a) e.forth ∧ ∀ x ∈ e.back, x = .released
  | .offering a, some b =>
    b = a ∧ (∀ x ∈ e.forth, x = .item a) ∧ Then (· = .released) (· = .held) e.back
  | .releasing _, none => (∀ x ∈ e.forth, x = .release) ∧ Then (· = .held) (· = .released) e.back
  | .releasing a, some b =>
    b = a ∧ Then (· = .item a) (· = .release) e.forth ∧ ∀ x ∈ e.back, x = .held

/-- The item offered but not passed on yet. -/
def Exchange.underWay (e : Exchange α) : List α :=
  match e.phase, e.held with
  | .offering a, _ => [a]
  | .releasing a, some _ => [a]
  | _, _ => []

/-- At most one item is under way, and none when the sender waits for nothing. -/
theorem length_underWay (e : Exchange α) : e.underWay.length ≤ 1 := by
  unfold Exchange.underWay
  split <;> simp

theorem underWay_idle {e : Exchange α} (h : e.phase = .idle) : e.underWay = [] := by
  unfold Exchange.underWay
  rw [h]

theorem sound_empty : (Exchange.empty : Exchange α).Sound := by
  simp [Exchange.empty, Exchange.Sound]

theorem sound_reset (e : Exchange α) : e.reset.Sound := by
  simp [Exchange.reset, Exchange.Sound]

theorem forall_mem_snoc {β : Type*} {p : β → Prop} {l : List β} {x : β} (h : ∀ y ∈ l, p y)
    (hx : p x) : ∀ y ∈ l ++ [x], p y := by
  intro y hy
  rcases List.mem_append.mp hy with hy | hy
  · exact h y hy
  · rwa [List.mem_singleton.mp hy]

/-- **One step** keeps what is under way in order. -/
theorem sound_step {e e' : Exchange α} (h : e.Sound) (hs : Step e e') : e'.Sound := by
  obtain ⟨phase, held, forth, back, offered, delivered⟩ := e
  cases hs with
  | offer a hp =>
    obtain rfl : phase = .idle := hp
    cases held with
    | none => exact ⟨(Then.of_left h.1).snoc rfl, h.2⟩
    | some b => exact h.elim
  | again =>
    cases phase with
    | idle => simpa [Phase.again] using h
    | offering a =>
      cases held with
      | none => exact ⟨h.1.snoc rfl, h.2⟩
      | some b => exact ⟨h.1, forall_mem_snoc h.2.1 rfl, h.2.2⟩
    | releasing a =>
      cases held with
      | none => exact ⟨forall_mem_snoc h.1 rfl, h.2⟩
      | some b => exact ⟨h.1, h.2.1.snoc rfl, h.2.2⟩
  | item a forth hf =>
    obtain rfl : _ = Forth.item a :: forth := hf
    cases phase with
    | idle =>
      cases held with
      | none => exact absurd (h.1 _ List.mem_cons_self) (by simp)
      | some b => exact h.elim
    | offering a' =>
      cases held with
      | none =>
        have hall := h.1.right_of_head (by simp)
        obtain rfl : a = a' := by simpa using hall _ List.mem_cons_self
        exact ⟨rfl, fun x hx => hall x (List.mem_cons_of_mem _ hx), (Then.of_left h.2).snoc rfl⟩
      | some b =>
        obtain ⟨rfl, hall, hback⟩ := h
        obtain rfl : a = b := by simpa using hall _ List.mem_cons_self
        exact ⟨rfl, fun x hx => hall x (List.mem_cons_of_mem _ hx), hback.snoc rfl⟩
    | releasing a' =>
      cases held with
      | none => exact absurd (h.1 _ List.mem_cons_self) (by simp)
      | some b =>
        obtain ⟨rfl, hforth, hback⟩ := h
        have hab : a = b := by
          by_contra hne
          exact absurd (hforth.right_of_head (by simpa using hne) _ List.mem_cons_self) (by simp)
        exact ⟨hab, hforth.tail, forall_mem_snoc hback rfl⟩
  | release forth hf =>
    obtain rfl : _ = Forth.release :: forth := hf
    cases phase with
    | idle =>
      cases held with
      | none =>
        exact ⟨fun x hx => h.1 x (List.mem_cons_of_mem _ hx), forall_mem_snoc h.2 rfl⟩
      | some b => exact h.elim
    | offering a =>
      cases held with
      | none => exact ⟨h.1.tail, forall_mem_snoc h.2 rfl⟩
      | some b => exact absurd (h.2.1 _ List.mem_cons_self) (by simp)
    | releasing a =>
      cases held with
      | none =>
        exact ⟨fun x hx => h.1 x (List.mem_cons_of_mem _ hx), h.2.snoc rfl⟩
      | some b =>
        have hall := h.2.1.right_of_head (by simp)
        exact ⟨fun x hx => hall x (List.mem_cons_of_mem _ hx), (Then.of_left h.2.2).snoc rfl⟩
  | held back hb =>
    obtain rfl : _ = Back.held :: back := hb
    cases phase with
    | idle =>
      cases held with
      | none => exact absurd (h.2 _ List.mem_cons_self) (by simp)
      | some b => exact h.elim
    | offering a =>
      cases held with
      | none => exact absurd (h.2 _ List.mem_cons_self) (by simp)
      | some b =>
        obtain ⟨rfl, hforth, hback⟩ := h
        have hall := hback.right_of_head (by simp)
        exact ⟨rfl, (Then.of_left hforth).snoc rfl, fun x hx => hall x (List.mem_cons_of_mem _ hx)⟩
    | releasing a =>
      cases held with
      | none => exact ⟨forall_mem_snoc h.1 rfl, h.2.tail⟩
      | some b =>
        exact ⟨h.1, h.2.1.snoc rfl, fun x hx => h.2.2 x (List.mem_cons_of_mem _ hx)⟩
  | released back hb =>
    obtain rfl : _ = Back.released :: back := hb
    cases phase with
    | idle =>
      cases held with
      | none => exact ⟨h.1, fun x hx => h.2 x (List.mem_cons_of_mem _ hx)⟩
      | some b => exact h.elim
    | offering a =>
      cases held with
      | none => exact ⟨h.1, fun x hx => h.2 x (List.mem_cons_of_mem _ hx)⟩
      | some b => exact ⟨h.1, h.2.1, h.2.2.tail⟩
    | releasing a =>
      cases held with
      | none =>
        have hall := h.2.right_of_head (by simp)
        exact ⟨h.1, fun x hx => hall x (List.mem_cons_of_mem _ hx)⟩
      | some b => exact absurd (h.2.2 _ List.mem_cons_self) (by simp)
  | lose forth back hf hb =>
    cases phase <;> cases held
    · exact ⟨fun x hx => h.1 x (hf.subset hx), fun x hx => h.2 x (hb.subset hx)⟩
    · exact h.elim
    · exact ⟨h.1.sublist hf, fun x hx => h.2 x (hb.subset hx)⟩
    · exact ⟨h.1, fun x hx => h.2.1 x (hf.subset hx), h.2.2.sublist hb⟩
    · exact ⟨fun x hx => h.1 x (hf.subset hx), h.2.sublist hb⟩
    · exact ⟨h.1, h.2.1.sublist hf, fun x hx => h.2.2 x (hb.subset hx)⟩

/-- **The account**: a step adds to what is passed on or under way what it adds to the offers. -/
theorem account_step {e e' : Exchange α} (h : e.Sound) (hs : Step e e') :
    ∃ l, e'.delivered ++ e'.underWay = (e.delivered ++ e.underWay) ++ l ∧
      e'.offered = e.offered ++ l := by
  obtain ⟨phase, held, forth, back, offered, delivered⟩ := e
  cases hs with
  | offer a hp =>
    obtain rfl : phase = .idle := hp
    exact ⟨[a], by simp [Exchange.underWay], rfl⟩
  | again => exact ⟨[], by simp [Exchange.underWay], by simp⟩
  | item a forth hf =>
    obtain rfl : _ = Forth.item a :: forth := hf
    cases phase with
    | idle => exact ⟨[], by simp [Exchange.underWay], by simp⟩
    | offering a' => exact ⟨[], by simp [Exchange.underWay], by simp⟩
    | releasing a' =>
      cases held with
      | none => exact absurd (h.1 _ List.mem_cons_self) (by simp)
      | some b => exact ⟨[], by simp [Exchange.underWay], by simp⟩
  | release forth hf =>
    obtain rfl : _ = Forth.release :: forth := hf
    cases phase <;> cases held
    · exact ⟨[], by simp [Exchange.underWay], by simp⟩
    · exact h.elim
    · exact ⟨[], by simp [Exchange.underWay], by simp⟩
    · exact absurd (h.2.1 _ List.mem_cons_self) (by simp)
    · exact ⟨[], by simp [Exchange.underWay], by simp⟩
    · exact ⟨[], by simp [Exchange.underWay, h.1], by simp⟩
  | held back hb =>
    obtain rfl : _ = Back.held :: back := hb
    cases phase <;> cases held
    · exact ⟨[], by simp [Exchange.underWay, Phase.confirm], by simp⟩
    · exact h.elim
    · exact absurd (h.2 _ List.mem_cons_self) (by simp)
    · exact ⟨[], by simp [Exchange.underWay, Phase.confirm], by simp⟩
    · exact ⟨[], by simp [Exchange.underWay, Phase.confirm], by simp⟩
    · exact ⟨[], by simp [Exchange.underWay, Phase.confirm], by simp⟩
  | released back hb =>
    obtain rfl : _ = Back.released :: back := hb
    cases phase <;> cases held
    · exact ⟨[], by simp [Exchange.underWay, Phase.finish], by simp⟩
    · exact h.elim
    · exact ⟨[], by simp [Exchange.underWay, Phase.finish], by simp⟩
    · exact ⟨[], by simp [Exchange.underWay, Phase.finish], by simp⟩
    · exact ⟨[], by simp [Exchange.underWay, Phase.finish], by simp⟩
    · exact absurd (h.2.2 _ List.mem_cons_self) (by simp)
  | lose forth back hf hb => exact ⟨[], by simp [Exchange.underWay], by simp⟩

/-! ### Whole exchanges -/

theorem sound_steps {e : Exchange α} (hs : Relation.ReflTransGen StepOrReset Exchange.empty e) :
    e.Sound := by
  induction hs with
  | refl => exact sound_empty
  | tail _ hs ih =>
    cases hs with
    | step hs => exact sound_step ih hs
    | reset => exact sound_reset _

/-- **Exactly once, in order**: what was passed on, and the item under way if there is one, are
the items offered. -/
theorem delivered_eq {e : Exchange α} (hs : Relation.ReflTransGen Step Exchange.empty e) :
    e.delivered ++ e.underWay = e.offered := by
  induction hs with
  | refl => rfl
  | @tail e e' hr hs ih =>
    have hsound : e.Sound :=
      sound_steps (Relation.ReflTransGen.mono (fun _ _ => StepOrReset.step) _ _ hr)
    obtain ⟨l, hl, ho⟩ := account_step hsound hs
    rw [hl, ho, ih]

/-- **At most once, in order**, even if the ends forget. -/
theorem delivered_sublist {e : Exchange α}
    (hs : Relation.ReflTransGen StepOrReset Exchange.empty e) : e.delivered.Sublist e.offered := by
  have hall : (e.delivered ++ e.underWay).Sublist e.offered := by
    induction hs with
    | refl => exact List.Sublist.refl _
    | @tail e e' hr hs ih =>
      cases hs with
      | step hs =>
        obtain ⟨l, hl, ho⟩ := account_step (sound_steps hr) hs
        rw [hl, ho]
        exact ih.append_right l
      | reset =>
        show (e.delivered ++ []).Sublist e.offered
        rw [List.append_nil]
        exact (List.sublist_append_left _ _).trans ih
  exact (List.sublist_append_left _ _).trans hall

end LanternProject.Lib.Handshake
