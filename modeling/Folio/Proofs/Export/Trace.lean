import Folio.Export.Run
/-!
The runs of a process: what it can ask and be answered, one exchange after the other, and what it
ends with. Any reply to any call counts, so what holds of all runs holds whoever answers. A run that
is not over is described by the call that comes next (`Asks`).
-/
set_option autoImplicit false

namespace Folio

abbrev Exchange := (c : Call) × c.Reply

namespace Process

variable {α β : Type}

inductive Runs : Process α → List Exchange → α → Prop where
  | done (a : α) : Runs (.done a) [] a
  | ask {c : Call} {next : c.Reply → Process α} {t : List Exchange} {a : α} (r : c.Reply)
      (h : Runs (next r) t a) : Runs (.ask c next) (⟨c, r⟩ :: t) a

@[simp] theorem runs_pure {a b : α} {t : List Exchange} :
    (pure a : Process α).Runs t b ↔ t = [] ∧ b = a := by
  constructor
  · intro h
    cases h
    exact ⟨rfl, rfl⟩
  · rintro ⟨rfl, rfl⟩
    exact .done b

@[simp] theorem runs_call {c : Call} {t : List Exchange} {r : c.Reply} :
    (call c).Runs t r ↔ t = [⟨c, r⟩] := by
  constructor
  · intro h
    cases h with
    | ask r h =>
      cases h
      rfl
  · rintro rfl
    exact .ask r (.done r)

theorem runs_bind {p : Process α} {f : α → Process β} {t : List Exchange} {b : β} :
    (p >>= f).Runs t b ↔
      ∃ t₁ a t₂, p.Runs t₁ a ∧ (f a).Runs t₂ b ∧ t = t₁ ++ t₂ := by
  change (p.bind f).Runs t b ↔ _
  induction p generalizing t with
  | done a =>
    constructor
    · intro h
      exact ⟨[], a, t, .done a, h, rfl⟩
    · rintro ⟨t₁, a', t₂, h₁, h₂, rfl⟩
      cases h₁
      exact h₂
  | ask c next ih =>
    constructor
    · intro h
      cases h with
      | ask r h =>
        obtain ⟨t₁, a, t₂, h₁, h₂, rfl⟩ := (ih r).1 h
        exact ⟨_, a, t₂, .ask r h₁, h₂, rfl⟩
    · rintro ⟨t₁, a, t₂, h₁, h₂, rfl⟩
      cases h₁ with
      | ask r h => exact .ask r ((ih r).2 ⟨_, a, t₂, h, h₂, rfl⟩)

theorem runs_call_bind {c : Call} {f : c.Reply → Process β} {t : List Exchange} {b : β} :
    (call c >>= f).Runs t b ↔ ∃ r t', (f r).Runs t' b ∧ t = ⟨c, r⟩ :: t' := by
  rw [runs_bind]
  constructor
  · rintro ⟨t₁, r, t₂, h₁, h₂, rfl⟩
    rw [runs_call] at h₁
    subst h₁
    exact ⟨r, t₂, h₂, rfl⟩
  · rintro ⟨r, t', h, rfl⟩
    exact ⟨[⟨c, r⟩], r, t', runs_call.2 rfl, h, rfl⟩

def log {σ : Type} (answer : (c : Call) → StateM σ c.Reply) : Process α → σ → List Exchange
  | .done _, _ => []
  | .ask c next, st =>
    ⟨c, ((answer c).run st).1⟩ :: (next ((answer c).run st).1).log answer ((answer c).run st).2

theorem runs_log {σ : Type} (answer : (c : Call) → StateM σ c.Reply) (p : Process α) (st : σ) :
    p.Runs (p.log answer st) ((p.run answer).run st).1 := by
  induction p generalizing st with
  | done a => exact .done a
  | ask c next ih => exact .ask _ (ih _ _)

/-- A process that only makes calls of some kind, whatever the replies. -/
def Only (P : Call → Prop) : Process α → Prop
  | .done _ => True
  | .ask c next => P c ∧ ∀ r, (next r).Only P

theorem Only.pure {P : Call → Prop} (a : α) : (Pure.pure a : Process α).Only P := trivial

theorem Only.call {P : Call → Prop} {c : Call} (h : P c) : (Process.call c).Only P :=
  ⟨h, fun _ => trivial⟩

theorem Only.bind {P : Call → Prop} {p : Process α} {f : α → Process β} (hp : p.Only P)
    (hf : ∀ a, (f a).Only P) : (p >>= f).Only P := by
  change (p.bind f).Only P
  induction p with
  | done a => exact hf a
  | ask c next ih => exact ⟨hp.1, fun r => ih r (hp.2 r)⟩

theorem Runs.only {P : Call → Prop} {p : Process α} {t : List Exchange} {a : α} (h : p.Runs t a)
    (hp : p.Only P) : ∀ x ∈ t, P x.1 := by
  induction h with
  | done a => intro x hx; simp at hx
  | ask r h ih =>
    intro x hx
    rcases List.mem_cons.1 hx with rfl | hx
    · exact hp.1
    · exact ih (hp.2 r) x hx

/-- The calls that a process can come to make, each behind the exchanges that lead to it. -/
inductive Asks : Process α → List Exchange → Call → Prop where
  | now (c : Call) (next : c.Reply → Process α) : Asks (.ask c next) [] c
  | later {c c' : Call} {next : c.Reply → Process α} {t : List Exchange} (r : c.Reply)
      (h : Asks (next r) t c') : Asks (.ask c next) (⟨c, r⟩ :: t) c'

@[simp] theorem not_asks_pure (a : α) (t : List Exchange) (c : Call) :
    ¬ (pure a : Process α).Asks t c := by
  intro h
  cases h

@[simp] theorem asks_call {c c' : Call} {t : List Exchange} :
    (call c).Asks t c' ↔ t = [] ∧ c' = c := by
  constructor
  · intro h
    cases h with
    | now => exact ⟨rfl, rfl⟩
    | later r h => cases h
  · rintro ⟨rfl, rfl⟩
    exact .now _ _

theorem asks_bind {p : Process α} {f : α → Process β} {t : List Exchange} {c : Call} :
    (p >>= f).Asks t c ↔
      p.Asks t c ∨ ∃ t₁ a t₂, p.Runs t₁ a ∧ (f a).Asks t₂ c ∧ t = t₁ ++ t₂ := by
  change (p.bind f).Asks t c ↔ _
  induction p generalizing t with
  | done a =>
    constructor
    · intro h
      exact .inr ⟨[], a, t, .done a, h, rfl⟩
    · rintro (h | ⟨t₁, a', t₂, h₁, h₂, rfl⟩)
      · cases h
      · cases h₁
        exact h₂
  | ask d next ih =>
    constructor
    · intro h
      cases h with
      | now => exact .inl (.now _ _)
      | later r h =>
        rcases (ih r).1 h with h | ⟨t₁, a, t₂, h₁, h₂, rfl⟩
        · exact .inl (.later r h)
        · exact .inr ⟨_, a, t₂, .ask r h₁, h₂, rfl⟩
    · rintro (h | ⟨t₁, a, t₂, h₁, h₂, rfl⟩)
      · cases h with
        | now => exact .now _ _
        | later r h => exact .later r ((ih r).2 (.inl h))
      · cases h₁ with
        | ask r h => exact .later r ((ih r).2 (.inr ⟨_, a, t₂, h, h₂, rfl⟩))

theorem asks_call_bind {c c' : Call} {f : c.Reply → Process β} {t : List Exchange} :
    (call c >>= f).Asks t c' ↔
      (t = [] ∧ c' = c) ∨ ∃ r t', (f r).Asks t' c' ∧ t = ⟨c, r⟩ :: t' := by
  rw [asks_bind, asks_call]
  constructor
  · rintro (h | ⟨t₁, r, t₂, h₁, h₂, rfl⟩)
    · exact .inl h
    · rw [runs_call] at h₁
      subst h₁
      exact .inr ⟨r, t₂, h₂, rfl⟩
  · rintro (h | ⟨r, t', h, rfl⟩)
    · exact .inl h
    · exact .inr ⟨[⟨c, r⟩], r, t', runs_call.2 rfl, h, rfl⟩

end Process

end Folio
