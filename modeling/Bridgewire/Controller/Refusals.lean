import Bridgewire.Controller.Audited
import Bridgewire.Controller.Parts

/-!
# Runs in which no event was refused

What holds over an audit sink that accepts every event holds of a run over any
sink in which no event was refused: the sink that keeps its exceptions to
itself would have given the same run.
-/

namespace Bridgewire.AccessController

open Effect

/-- The sink with its exceptions kept from the controller. -/
def Wiring.accepting {W : Type} (c : Wiring W) : Wiring W :=
  { c with audit := ⟨fun event => Effect.of fun w => (.ok (), ((c.audit.append event).run w).2)⟩ }

theorem Wiring.accepting_audited {W : Type} {c : Wiring W} (haware : ∀ w, (c.clock.now w).1.isAware = true) :
    c.accepting.Audited where
  accepts _ _ := rfl
  aware := haware

/-- An event was refused. -/
def TurnedDown (trace : List Occurrence) : Prop := ∃ event e, .appended event (.error e) ∈ trace

theorem turnedDown_lasts : Lasts TurnedDown := by
  rintro trace lines ⟨event, e, hmem⟩
  exact ⟨event, e, List.mem_append_left _ hmem⟩

/-- The event of this line was refused. -/
def Occurrence.isRefused : Occurrence → Bool
  | .appended _ (.error _) => true
  | _ => false

theorem turnedDown_iff {trace : List Occurrence} : TurnedDown trace ↔ trace.any Occurrence.isRefused = true := by
  rw [List.any_eq_true]
  constructor
  · rintro ⟨event, e, hmem⟩
    exact ⟨_, hmem, rfl⟩
  · rintro ⟨line, hmem, hrefused⟩
    cases line with
    | appended event answer =>
      cases answer with
      | error e => exact ⟨event, e, hmem⟩
      | ok => cases hrefused
    | _ => cases hrefused

instance (trace : List Occurrence) : Decidable (TurnedDown trace) := decidable_of_iff _ turnedDown_iff.symm

/-- An event was refused in the trace of the system. -/
abbrev Broken {W : Type} (s : System W) : Prop := TurnedDown s.trace

section
variable {W : Type} (c : Wiring W)

/-- An event that is accepted is so by both sinks. -/
theorem append_until (event : AuditEvent) :
    (Congruence.until Broken).Keeps (append c event) (append c.accepting event) := by
  intro s
  refine ⟨fun h => turnedDown_lasts _ _ h, ?_, fun _ _ => trivial⟩
  simp only [append, ask, run_of, Wiring.accepting]
  cases hrun : (c.audit.append event).run s.world with
  | mk answer w =>
    cases answer with
    | ok => exact .inr rfl
    | error e => exact .inl ⟨event, e, List.mem_append_right _ (List.mem_singleton_self _)⟩

theorem asks_until {α : Type} (port : Port W α) (note : Except Exn α → Occurrence) :
    (Congruence.until (@Broken W)).Keeps (ask port note) (ask port note) :=
  (ask_persists turnedDown_lasts port note).until

theorem parts_until : Parts c c.accepting (Congruence.until Broken) (fun _ => True) where
  assigns change := (assign_persists change).until
  enters state := (enter_persists turnedDown_lasts state).until
  begins operation := (begin_persists turnedDown_lasts operation).until
  classifies _ := asks_until _ _
  makes := makes_any (look_persists turnedDown_lasts _ _).until (glance_persists _).until
  appends event _ := append_until c event
  enqueues _ := asks_until _ _
  reads := (look_persists turnedDown_lasts _ _).until
  looks := (look_persists turnedDown_lasts _ _).until
  glances := (glance_persists _).until
  channel := rfl
  seconds := rfl

/-- A call in which no event was refused is a call over the sink that accepts all. -/
theorem call_accepting (operation : Operation) (s : System W) :
    Persists Broken s ((call c operation).run s).2 ∧
      (Broken ((call c operation).run s).2 ∨ (call c operation).run s = (call c.accepting operation).run s) := by
  have hcall := (parts_until c).call operation (asks_until _ _) (fun _ => asks_until _ _)
    (fun _ => asks_until _ _) fun _ => asks_until _ _
  exact ⟨(hcall s).1, (hcall s).2.1⟩

end

-- ---------------------------------------------------------------------------
-- Unless an event was refused
-- ---------------------------------------------------------------------------

section
variable {W : Type}

def Unless (P : System W → Prop) (s : System W) : Prop := Broken s ∨ P s

def KeepsUnless (P : System W → Prop) (s s' : System W) : Prop := Unless P s → Unless P s'

instance (P : System W → Prop) : IsPreorder (System W) (KeepsUnless P) where
  refl _ h := h
  trans _ _ _ h h' hs := h' (h hs)

/-- What a call over the sink that accepts all keeps, a call keeps unless an event was refused. -/
theorem call_unless {c : Wiring W} {P : System W → Prop} {operation : Operation}
    (haccepting : ∀ s, P s → P ((call c.accepting operation).run s).2) : Within (KeepsUnless P) (call c operation) := by
  intro s hs
  obtain ⟨hpersists, hsame⟩ := call_accepting c operation s
  rcases hs with hbroken | hp
  · exact .inl (hpersists hbroken)
  rcases hsame with hbroken | hsame
  · exact .inl hbroken
  · refine .inr ?_
    rw [hsame]
    exact haccepting s hp

end

end Bridgewire.AccessController
