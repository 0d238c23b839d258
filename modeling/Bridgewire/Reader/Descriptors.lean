import Bridgewire.Reader.Holding
import Bridgewire.Reader.PosixSerial

/-!
# File descriptors

The calls that `PosixSerialSession` makes on file descriptors, and the order
that they keep: a descriptor is configured as soon as it is open, is used by
one session only, and is not used once it is closed.
-/

namespace Bridgewire

open Effect

-- ---------------------------------------------------------------------------
-- The order of the calls
-- ---------------------------------------------------------------------------

/-- A call on a file descriptor. An open that raises gives none. -/
inductive DescriptorCall
  | opened (fd : Int)
  | configured (fd : Int) (answer : Except Exn Unit)
  | selected (fd : Int)
  | read (fd : Int)
  | closed (fd : Int) (answer : Except Exn Unit)

namespace Descriptors

/-- What the next calls are about. -/
inductive Phase
  | idle
  | opened (fd : Int)
  /-- The configuration raised. -/
  | refused (fd : Int)
  | held (fd : Int)
  deriving DecidableEq

/-- The call that may come next, and what is left open for good: a descriptor
whose configuration was interrupted, or that could not be closed after one that
raised. -/
inductive Step : Phase → DescriptorCall → List Int → Phase → Prop
  | opens (fd : Int) : Step .idle (.opened fd) [] (.opened fd)
  | configures (fd : Int) : Step (.opened fd) (.configured fd (.ok ())) [] (.held fd)
  | refuses (fd : Int) {e : Exn} : e.isException = true → Step (.opened fd) (.configured fd (.error e)) [] (.refused fd)
  | interrupts (fd : Int) {e : Exn} : e.isException = false → Step (.opened fd) (.configured fd (.error e)) [fd] .idle
  | gives (fd : Int) : Step (.refused fd) (.closed fd (.ok ())) [] .idle
  | loses (fd : Int) (e : Exn) : Step (.refused fd) (.closed fd (.error e)) [fd] .idle
  | selects (fd : Int) : Step (.held fd) (.selected fd) [] (.held fd)
  | reads (fd : Int) : Step (.held fd) (.read fd) [] (.held fd)
  | closes (fd : Int) : Step (.held fd) (.closed fd (.ok ())) [] .idle
  | keeps (fd : Int) (e : Exn) : Step (.held fd) (.closed fd (.error e)) [] (.held fd)

/-- The calls keep their order from when nothing is open. -/
inductive Runs : List DescriptorCall → List Int → Phase → Prop
  | nil : Runs [] [] .idle
  | step {calls : List DescriptorCall} {call : DescriptorCall} {lost more : List Int} {phase phase' : Phase} :
      Runs calls lost phase → Step phase call more phase' → Runs (calls ++ [call]) (lost ++ more) phase'

/-- The descriptors that were opened, and those that were closed, in order. -/
def opened (calls : List DescriptorCall) : List Int :=
  calls.filterMap fun
    | .opened fd => some fd
    | _ => none

def closed (calls : List DescriptorCall) : List Int :=
  calls.filterMap fun
    | .closed fd (.ok ()) => some fd
    | _ => none

def Phase.open? : Phase → List Int
  | .idle => []
  | .opened fd | .refused fd | .held fd => [fd]

/-- A call, its descriptor and what it leaves open for good, balanced. -/
theorem Step.balance {phase phase' : Phase} {call : DescriptorCall} {more : List Int}
    (h : Step phase call more phase') :
    (opened [call] ++ phase.open?).Perm (closed [call] ++ more ++ phase'.open?) := by
  cases h <;> exact .refl _

/-- Every descriptor that was opened was closed once, is lost, or is open. -/
theorem Runs.balance {calls : List DescriptorCall} {lost : List Int} {phase : Phase} (h : Runs calls lost phase) :
    (opened calls).Perm (closed calls ++ lost ++ phase.open?) := by
  induction h with
  | nil => exact .refl _
  | @step calls call lost more phase phase' _ hstep ih =>
    refine List.perm_iff_count.mpr fun fd => ?_
    have hbefore := ih.count_eq fd
    have hcall := hstep.balance.count_eq fd
    have hopened : opened (calls ++ [call]) = opened calls ++ opened [call] := List.filterMap_append
    have hclosed : closed (calls ++ [call]) = closed calls ++ closed [call] := List.filterMap_append
    simp only [hopened, hclosed, List.count_append] at hbefore hcall ⊢
    omega

/-- Something was interrupted, or could not be closed, where one is lost. -/
theorem Runs.of_lost {calls : List DescriptorCall} {lost : List Int} {phase : Phase} (h : Runs calls lost phase) :
    ∀ fd ∈ lost, (∃ e, e.isException = false ∧ .configured fd (.error e) ∈ calls) ∨
      ∃ e, .closed fd (.error e) ∈ calls := by
  induction h with
  | nil =>
    intro fd hfd
    cases hfd
  | @step calls call lost more phase phase' _ hstep ih =>
    intro fd hfd
    rcases List.mem_append.mp hfd with hfd | hfd
    · refine (ih fd hfd).imp ?_ ?_
      · rintro ⟨e, he, hmem⟩
        exact ⟨e, he, List.mem_append_left _ hmem⟩
      · rintro ⟨e, hmem⟩
        exact ⟨e, List.mem_append_left _ hmem⟩
    · cases hstep with
      | interrupts _ he =>
        obtain rfl := List.mem_singleton.mp hfd
        exact .inl ⟨_, he, List.mem_append_right _ (List.mem_singleton_self _)⟩
      | loses =>
        obtain rfl := List.mem_singleton.mp hfd
        exact .inr ⟨_, List.mem_append_right _ (List.mem_singleton_self _)⟩
      | _ => cases hfd

/-- A call that loses nothing. -/
theorem Runs.next {calls : List DescriptorCall} {call : DescriptorCall} {lost : List Int} {phase phase' : Phase}
    (h : Runs calls lost phase) (hstep : Step phase call [] phase') : Runs (calls ++ [call]) lost phase' := by
  simpa using h.step hstep

end Descriptors

-- ---------------------------------------------------------------------------
-- An operating system whose calls are written down
-- ---------------------------------------------------------------------------

/-- The world with the calls that were made on descriptors. -/
structure Journalled (W : Type) where
  world : W
  calls : List DescriptorCall

def Journalled.inner (W : Type) : Component (Journalled W) W where
  get s := s.world
  set world s := { s with world }
  get_set _ _ := rfl
  set_get _ := rfl
  set_set _ _ _ := rfl

section
variable {W α : Type}

def journalling (lines : Except Exn α → List DescriptorCall) (port : Port W α) : Port (Journalled W) α :=
  Effect.of fun s => ((port.run s.world).1, ⟨(port.run s.world).2, s.calls ++ lines (port.run s.world).1⟩)

def OperatingSystem.openedCalls : Except Exn Int → List DescriptorCall
  | .ok fd => [.opened fd]
  | .error _ => []

def OperatingSystem.journalled (os : OperatingSystem W) : OperatingSystem (Journalled W) where
  openReader path := journalling openedCalls (os.openReader path)
  configure fd := journalling (fun answer => [.configured fd answer]) (os.configure fd)
  select fd := journalling (fun _ => [.selected fd]) (os.select fd)
  read fd count := journalling (fun _ => [.read fd]) (os.read fd count)
  close fd := journalling (fun answer => [.closed fd answer]) (os.close fd)

/-- `os.open` answers descriptors that are not negative. -/
def OperatingSystem.Opens (os : OperatingSystem W) : Prop :=
  ∀ path w fd, ((os.openReader path).run w).1 = .ok fd → 0 ≤ fd

end

namespace PosixSerialSession

open Descriptors

section
variable {W α : Type} {os : OperatingSystem W}

/-- The descriptor of this session is the one that is open. -/
def HeldBy : Option ReaderSession → SerialPorts (Journalled W) → Prop
  | none, ports => ∃ lost, Runs ports.world.calls lost .idle
  | some session, ports => 0 ≤ fd session ports ∧ ∃ lost, Runs ports.world.calls lost (.held (fd session ports))

/-- Nothing is done to a descriptor. -/
structure Untouched (ports ports' : SerialPorts (Journalled W)) : Prop where
  fds : ports'.fds = ports.fds
  calls : ports'.world.calls = ports.world.calls

instance : IsPreorder (SerialPorts (Journalled W)) Untouched where
  refl _ := ⟨rfl, rfl⟩
  trans _ _ _ h h' := ⟨h'.fds.trans h.fds, h'.calls.trans h.calls⟩

theorem fd_congr {session : ReaderSession} {ports ports' : SerialPorts (Journalled W)} (h : ports'.fds = ports.fds) :
    fd session ports' = fd session ports := by
  rw [fd, h, fd]

theorem HeldBy.of_fd {session : ReaderSession} {ports : SerialPorts (Journalled W)} {descriptor : Int}
    {lost : List Int} (hfd : fd session ports = descriptor) (hnonneg : 0 ≤ descriptor)
    (hruns : Runs ports.world.calls lost (.held descriptor)) : HeldBy (some session) ports := by
  subst hfd
  exact ⟨hnonneg, lost, hruns⟩

theorem Untouched.heldBy {ports ports' : SerialPorts (Journalled W)} (h : Untouched ports ports')
    (held : Option ReaderSession) (hheld : HeldBy held ports) : HeldBy held ports' := by
  cases held with
  | none =>
    obtain ⟨lost, hruns⟩ := hheld
    exact ⟨lost, h.calls ▸ hruns⟩
  | some session =>
    obtain ⟨hnonneg, lost, hruns⟩ := hheld
    exact .of_fd (fd_congr h.fds) hnonneg (h.calls ▸ hruns)

theorem ask_journalling (lines : Except Exn α → List DescriptorCall) (port : Port W α)
    (ports : SerialPorts (Journalled W)) :
    Ends (ask (journalling lines port)) ports fun answer ports' => answer = (port.run ports.world.world).1 ∧
      ports'.fds = ports.fds ∧ ports'.world.calls = ports.world.calls ++ lines answer :=
  ends_iff.mpr ⟨rfl, rfl, rfl⟩

theorem fd_last (fds : List Int) (fd' : Int) (world : Journalled W) :
    fd ⟨fds.length⟩ ⟨world, fds ++ [fd']⟩ = fd' := by
  simp [fd]

/-- A constructor that raises leaves no descriptor behind but a lost one. -/
theorem init_holds (hopen : os.Opens) (path : String) (baudRate : Int) {ports : SerialPorts (Journalled W)}
    (h : HeldBy none ports) :
    Triple (init os.journalled path baudRate) ports (fun session => HeldBy (some session)) fun _ => HeldBy none := by
  obtain ⟨lost, hruns⟩ := h
  unfold init
  by_cases hbaud : baudRate ≠ 9600
  · rw [if_pos hbaud]
    exact ⟨lost, hruns⟩
  rw [if_neg hbaud]
  refine Triple.bind (Triple.mono (ask_journalling _ _ ports) (fun _ _ h => h) ?_) ?_
  · rintro e ports₁ ⟨-, -, hcalls⟩
    exact ⟨lost, by simpa [hcalls, OperatingSystem.openedCalls] using hruns⟩
  rintro fd' ports₁ ⟨hanswer, hfds₁, hcalls₁⟩
  have hruns₁ : Runs ports₁.world.calls lost (.opened fd') := hcalls₁ ▸ hruns.next (.opens fd')
  refine Triple.bind (Triple.mono (Triple.attempt (ask_journalling _ _ ports₁)) (fun _ _ h => h) ?_) ?_
  · rintro e ports₂ ⟨hinterrupted, -, -, hcalls₂⟩
    exact ⟨lost ++ [fd'], hcalls₂ ▸ hruns₁.step (.interrupts fd' hinterrupted)⟩
  rintro (e | ⟨⟨⟩⟩) ports₂ h
  · obtain ⟨hraised, -, -, hcalls₂⟩ := h
    have hruns₂ : Runs ports₂.world.calls lost (.refused fd') := hcalls₂ ▸ hruns₁.next (.refuses fd' hraised)
    refine Triple.bind (Triple.mono (ask_journalling _ _ ports₂) (fun _ _ h => h) ?_) ?_
    · rintro e' ports₃ ⟨-, -, hcalls₃⟩
      exact ⟨lost ++ [fd'], hcalls₃ ▸ hruns₂.step (.loses fd' e')⟩
    · rintro ⟨⟩ ports₃ ⟨-, -, hcalls₃⟩
      exact ⟨lost, hcalls₃ ▸ hruns₂.next (.gives fd')⟩
  · obtain ⟨-, -, hcalls₂⟩ := h
    have hruns₂ : Runs ports₂.world.calls lost (.held fd') := hcalls₂ ▸ hruns₁.next (.configures fd')
    refine Triple.get_bind (Triple.modify_bind ?_)
    exact HeldBy.of_fd (fd_last ports₂.fds fd' ports₂.world) (hopen path ports.world.world fd' hanswer.symm) hruns₂

/-- A read is of the descriptor of the session. -/
theorem read_holds (session : ReaderSession) {ports : SerialPorts (Journalled W)} (h : HeldBy (some session) ports) :
    Ends (read os.journalled session) ports fun _ => HeldBy (some session) := by
  obtain ⟨hnonneg, lost, hruns⟩ := h
  have hheld : ∀ {ports' : SerialPorts (Journalled W)}, ports'.fds = ports.fds →
      Runs ports'.world.calls lost (.held (fd session ports)) → HeldBy (some session) ports' :=
    fun hfds => .of_fd (fd_congr hfds) hnonneg
  have hpoll : Ends (poll os.journalled (fd session ports)) ports fun _ => HeldBy (some session) := by
    unfold poll
    refine Ends.bind (ask_journalling _ _ ports) ?_ ?_
    · rintro e ports₁ ⟨-, hfds₁, hcalls₁⟩
      exact hheld hfds₁ (hcalls₁ ▸ hruns.next (.selects _))
    rintro isReady ports₁ ⟨-, hfds₁, hcalls₁⟩
    have hruns₁ : Runs ports₁.world.calls lost (.held (fd session ports)) := hcalls₁ ▸ hruns.next (.selects _)
    split
    · exact hheld hfds₁ hruns₁
    · refine Ends.mono (ask_journalling _ _ ports₁) ?_
      rintro _ ports₂ ⟨-, hfds₂, hcalls₂⟩
      exact hheld (hfds₂.trans hfds₁) (hcalls₂ ▸ hruns₁.next (.reads _))
  unfold read
  refine Ends.get_bind ?_
  dsimp only
  rw [if_neg (not_lt.mpr hnonneg)]
  refine Ends.bind (Triple.attempt hpoll) (fun _ _ h => h.2) ?_
  rintro (e | data) ports₁ h
  · exact Ends.throw h.2
  · exact Ends.pure h

/-- A close that raises leaves the session its descriptor. -/
theorem close_holds (session : ReaderSession) {ports : SerialPorts (Journalled W)} (h : HeldBy (some session) ports) :
    Triple (close os.journalled session) ports (fun _ => HeldBy none) fun _ => HeldBy (some session) := by
  obtain ⟨hnonneg, lost, hruns⟩ := h
  unfold close
  refine Triple.get_bind ?_
  dsimp only
  rw [if_pos hnonneg]
  refine Triple.bind (Triple.mono (ask_journalling _ _ ports) (fun _ _ h => h) ?_) ?_
  · rintro e ports₁ ⟨-, hfds₁, hcalls₁⟩
    exact .of_fd (fd_congr hfds₁) hnonneg (hcalls₁ ▸ hruns.next (.keeps _ e))
  · rintro ⟨⟩ ports₁ ⟨-, -, hcalls₁⟩
    exact ⟨lost, hcalls₁ ▸ hruns.next (.closes _)⟩

end

end PosixSerialSession

-- ---------------------------------------------------------------------------
-- The supervisor over serial sessions
-- ---------------------------------------------------------------------------

namespace ReaderSupervisor

open PosixSerialSession (HeldBy Untouched)

section
variable {W : Type}

/-- The same supervisor, with the calls on descriptors written down. -/
def SerialSettings.journalled (serial : SerialSettings W) : SerialSettings (Journalled W) where
  os := serial.os.journalled
  identity := serial.identity
  enumerateDevices := Effect.zoom (Journalled.inner W) serial.enumerateDevices
  baudRate := serial.baudRate
  backoff := serial.backoff
  repeatedFailureThreshold := serial.repeatedFailureThreshold
  randomUnit := Effect.zoom (Journalled.inner W) serial.randomUnit
  monotonic := serial.monotonic.map fun monotonic s =>
    ((monotonic s.world).1, { s with world := (monotonic s.world).2 })
  threshold_pos := serial.threshold_pos

theorem journalled_holds (serial : SerialSettings W) (hopen : serial.os.Opens) :
    serial.journalled.settings.Holds Untouched HeldBy where
  keeps := Untouched.heldBy
  enumerateDevices := fun _ => ⟨rfl, rfl⟩
  randomUnit := fun _ => ⟨rfl, rfl⟩
  monotonic := by
    intro monotonic hmonotonic ports
    obtain ⟨inner, hinner, rfl⟩ := Option.map_eq_some_iff.mp hmonotonic
    obtain ⟨reading, -, rfl⟩ := Option.map_eq_some_iff.mp hinner
    exact ⟨rfl, rfl⟩
  openReader path ports h := Triple.map (PosixSerialSession.init_holds hopen path serial.baudRate h)
  read session _ h := PosixSerialSession.read_holds session h
  closeSession session _ h := PosixSerialSession.close_holds session h

end

end ReaderSupervisor

end Bridgewire
