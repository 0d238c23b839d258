import Bridgewire.Configuration.Loading

/-!
# What the loader accepts

The loader makes one check after the other and stops at the first that fails.
A document goes wrong in two ways only: the first check to fail is a `float()`
that overflows, or no check fails and a number that the negated comparisons
let through is `nan`. A file that is no document goes wrong where what is
raised is not caught.
-/

namespace Bridgewire.Loading

-- ---------------------------------------------------------------------------
-- Sane configurations
-- ---------------------------------------------------------------------------

structure Sane (config : Configuration) : Prop where
  serial : config.serial = approvedSerial
  gpio : config.gpio = approvedGpio
  minimum_pos : 0 < config.backoff.minimum
  minimum_le : config.backoff.minimum ≤ config.backoff.maximum
  jitter_nonneg : 0 ≤ config.backoff.jitter
  jitter_le : config.backoff.jitter ≤ 1
  warningCount_pos : 0 < config.escalation.warningCount
  warningCount_lt : config.escalation.warningCount < config.escalation.criticalCount
  warningWindow_pos : 0 < config.escalation.warningWindow
  warningWindow_le : config.escalation.warningWindow ≤ config.escalation.criticalWindow
  resetAfter_pos : 0 < config.escalation.resetAfter
  stale_pos : 0 < config.api.operationalSnapshotStaleAfterSeconds
  port : 1 ≤ config.api.port ∧ config.api.port ≤ 65535
  pageSize : 1 ≤ config.api.maxEventPageSize ∧ config.api.maxEventPageSize ≤ 1000
  host : ∃ c ∈ config.api.host.toList, isSpace c = false
  identity : config.readerIdentity.byIdPath.isSome ∨
    config.readerIdentity.vid.isSome ∧ config.readerIdentity.pid.isSome

/-- A sane configuration, or a `ConfigurationError` and no other exception. -/
def Meets : Loads Configuration → Prop
  | .ok config => Sane config
  | .error e => ∃ message, e = .configurationError message

-- ---------------------------------------------------------------------------
-- Checks in order
-- ---------------------------------------------------------------------------

/-- A reading for its verdict alone. -/
def check {α : Type} (reading : Loads α) : Loads Unit := reading >>= fun _ => .ok ()

def inOrder : List (Loads Unit) → Loads Unit
  | [] => .ok ()
  | c :: rest => c >>= fun _ => inOrder rest

theorem bind_ok {α β : Type} {x : Loads α} {f : α → Loads β} {b : β} :
    x >>= f = .ok b ↔ ∃ a, x = .ok a ∧ f a = .ok b := by
  cases x <;> simp [bind, Except.bind]

@[simp] theorem ok_bind {α β : Type} (a : α) (f : α → Loads β) : (Except.ok a >>= f : Loads β) = f a := rfl

@[simp] theorem error_bind {α β : Type} (e : LoadingError) (f : α → Loads β) :
    (Except.error e >>= f : Loads β) = .error e := rfl

theorem inOrder_append (xs ys : List (Loads Unit)) :
    inOrder (xs ++ ys) = inOrder xs >>= fun _ => inOrder ys := by
  induction xs with
  | nil => rfl
  | cons c xs ih =>
    show (c >>= fun _ => inOrder (xs ++ ys)) = (c >>= fun _ => inOrder xs) >>= fun _ => inOrder ys
    rw [ih, bind_assoc]

theorem inOrder_ok {checks : List (Loads Unit)} : inOrder checks = .ok () ↔ ∀ c ∈ checks, c = .ok () := by
  induction checks with
  | nil => simp [inOrder]
  | cons c checks ih => cases c <;> simp [inOrder, ih]

/-- The first check that fails. -/
theorem inOrder_error {checks : List (Loads Unit)} {e : LoadingError} :
    inOrder checks = .error e ↔
      ∃ front back, checks = front ++ .error e :: back ∧ ∀ c ∈ front, c = .ok () := by
  induction checks with
  | nil => simp [inOrder]
  | cons c checks ih =>
    cases c with
    | ok =>
      simp only [inOrder, ok_bind, ih]
      constructor
      · rintro ⟨front, back, rfl, hfront⟩
        exact ⟨.ok () :: front, back, rfl, by simpa using hfront⟩
      · rintro ⟨front, back, hchecks, hfront⟩
        cases front with
        | nil => cases hchecks
        | cons first front =>
          obtain ⟨-, rfl⟩ := List.cons.inj hchecks
          exact ⟨front, back, rfl, fun c hc => hfront c (List.mem_cons_of_mem first hc)⟩
    | error e' =>
      simp only [inOrder, error_bind]
      constructor
      · rintro ⟨⟩
        exact ⟨[], checks, rfl, by simp⟩
      · rintro ⟨front, back, hchecks, hfront⟩
        cases front with
        | nil => rw [(List.cons.inj hchecks).1]
        | cons first front =>
          obtain ⟨rfl, -⟩ := List.cons.inj hchecks
          cases hfront _ List.mem_cons_self

-- ---------------------------------------------------------------------------
-- The checks of the loader
-- ---------------------------------------------------------------------------

/-- A section, or the one that stands for it. -/
def sectionOr (raw : Table) (name : String) (default : Table) : Table :=
  match raw.get name with
  | some (.table entries) => entries
  | _ => default

def relaySection (raw : Table) : Table := sectionOr raw "relay" [("backend", .string "simulated")]

def sectionChecks (raw : Table) : List (Loads Unit) :=
  [check (table raw "reader"), check (table raw "serial"), check (table raw "gpio"),
    check (table raw "reconnect"), check (table raw "escalation"),
    check (tableOr raw "relay" [("backend", .string "simulated")]), check (tableOr raw "api" [])]

/-- The fields, and then what the constructor says of them. -/
def identityChecks (reader : Table) : List (Loads Unit) :=
  [check (optionalString reader "by_id_path"), check (optionalInteger reader "vid"),
    check (optionalInteger reader "pid"), check (optionalString reader "serial_number"),
    check (optionalString reader "manufacturer"), check (optionalString reader "product"),
    check (readIdentity reader)]

def serialChecks (serial : Table) : List (Loads Unit) :=
  [check (integer serial "baud_rate"), check (integer serial "data_bits"), check (string serial "parity"),
    check (integer serial "stop_bits"), check (number serial "timeout_seconds"),
    check (integer serial "maximum_record_bytes")]

def gpioChecks (gpio : Table) : List (Loads Unit) :=
  [check (string gpio "numbering"), check (integer gpio "channel"), check (boolean gpio "normal_high"),
    check (boolean gpio "release_high"), check (number gpio "release_seconds")]

def backoffChecks (reconnect : Table) : List (Loads Unit) :=
  [check (number reconnect "minimum_seconds"), check (number reconnect "maximum_seconds"),
    check (number reconnect "jitter"), check (readBackoff reconnect)]

def escalationChecks (escalation : Table) : List (Loads Unit) :=
  [check (integer escalation "warning_count"), check (number escalation "warning_window_seconds"),
    check (integer escalation "critical_count"), check (number escalation "critical_window_seconds"),
    check (number escalation "reset_after_seconds"), check (readEscalation escalation)]

def apiChecks (api : Table) : List (Loads Unit) :=
  let defaults : ApiConfiguration := {}
  [check (orDefault boolean api "enabled" defaults.enabled),
    check (orDefault (fun table name => strip <$> string table name) api "host" defaults.host),
    check (orDefault integer api "port" defaults.port),
    check (orDefault integer api "max_event_page_size" defaults.maxEventPageSize),
    check (orDefault number api "operational_snapshot_stale_after_seconds"
      defaults.operationalSnapshotStaleAfterSeconds)]

/-- Everything that is read of a document, in order. -/
def readings (raw : Table) : List (Loads Unit) :=
  sectionChecks raw ++ identityChecks (sectionOr raw "reader" []) ++ serialChecks (sectionOr raw "serial" []) ++
    gpioChecks (sectionOr raw "gpio" []) ++ backoffChecks (sectionOr raw "reconnect" []) ++
    escalationChecks (sectionOr raw "escalation" []) ++ [check (string (relaySection raw) "backend")] ++
    apiChecks (sectionOr raw "api" [])

theorem readSerial_check (serial : Table) : check (readSerial serial) = inOrder (serialChecks serial) := by
  unfold readSerial serialChecks
  cases integer serial "baud_rate" <;> [rfl; skip]
  cases integer serial "data_bits" <;> [rfl; skip]
  cases string serial "parity" <;> [rfl; skip]
  cases integer serial "stop_bits" <;> [rfl; skip]
  cases number serial "timeout_seconds" <;> [rfl; skip]
  cases integer serial "maximum_record_bytes" <;> rfl

theorem readGpio_check (gpio : Table) : check (readGpio gpio) = inOrder (gpioChecks gpio) := by
  unfold readGpio gpioChecks
  cases string gpio "numbering" <;> [rfl; skip]
  cases integer gpio "channel" <;> [rfl; skip]
  cases boolean gpio "normal_high" <;> [rfl; skip]
  cases boolean gpio "release_high" <;> [rfl; skip]
  cases number gpio "release_seconds" <;> rfl

theorem readIdentity_check (reader : Table) : check (readIdentity reader) = inOrder (identityChecks reader) := by
  unfold identityChecks readIdentity
  cases optionalString reader "by_id_path" <;> [rfl; skip]
  cases optionalInteger reader "vid" <;> [rfl; skip]
  cases optionalInteger reader "pid" <;> [rfl; skip]
  cases optionalString reader "serial_number" <;> [rfl; skip]
  cases optionalString reader "manufacturer" <;> [rfl; skip]
  cases optionalString reader "product" <;> [rfl; skip]
  exact (bind_pure _).symm

theorem readBackoff_check (reconnect : Table) :
    check (readBackoff reconnect) = inOrder (backoffChecks reconnect) := by
  unfold backoffChecks readBackoff
  cases number reconnect "minimum_seconds" <;> [rfl; skip]
  cases number reconnect "maximum_seconds" <;> [rfl; skip]
  cases number reconnect "jitter" <;> [rfl; skip]
  exact (bind_pure _).symm

theorem readEscalation_check (escalation : Table) :
    check (readEscalation escalation) = inOrder (escalationChecks escalation) := by
  unfold escalationChecks readEscalation
  cases integer escalation "warning_count" <;> [rfl; skip]
  cases number escalation "warning_window_seconds" <;> [rfl; skip]
  cases integer escalation "critical_count" <;> [rfl; skip]
  cases number escalation "critical_window_seconds" <;> [rfl; skip]
  cases number escalation "reset_after_seconds" <;> [rfl; skip]
  exact (bind_pure _).symm

theorem readApi_check (api : Table) : check (readApi api) = inOrder (apiChecks api) := by
  unfold readApi apiChecks
  dsimp only
  cases orDefault boolean api "enabled" _ <;> [rfl; skip]
  cases orDefault (fun table name => strip <$> string table name) api "host" _ <;> [rfl; skip]
  cases orDefault integer api "port" _ <;> [rfl; skip]
  cases orDefault integer api "max_event_page_size" _ <;> [rfl; skip]
  cases orDefault number api "operational_snapshot_stale_after_seconds" _ <;> rfl

theorem table_eq {raw : Table} {name : String} {entries : Table} (h : table raw name = .ok entries) :
    entries = sectionOr raw name [] := by
  unfold table at h
  unfold sectionOr
  split at h <;> simp_all

theorem tableOr_eq {raw : Table} {name : String} {entries default : Table}
    (h : tableOr raw name default = .ok entries) : entries = sectionOr raw name default := by
  unfold tableOr at h
  unfold sectionOr
  split at h <;> simp_all

theorem check_bind {α β : Type} (x : Loads α) (f : α → Loads β) :
    check (x >>= f) = x >>= fun a => check (f a) := bind_assoc _ _ _

/-- The verdict of the `try` is that of the readings in order. -/
theorem parse_check (raw : Table) : check (parse raw) = inOrder (readings raw) := by
  have hsections : ∀ f : Table → Table → Table → Table → Table → Table → Table → Loads Unit,
      (do
        let reader ← table raw "reader"
        let serial ← table raw "serial"
        let gpio ← table raw "gpio"
        let reconnect ← table raw "reconnect"
        let escalation ← table raw "escalation"
        let relay ← tableOr raw "relay" [("backend", .string "simulated")]
        let api ← tableOr raw "api" []
        f reader serial gpio reconnect escalation relay api) =
      inOrder (sectionChecks raw) >>= fun _ =>
        f (sectionOr raw "reader" []) (sectionOr raw "serial" []) (sectionOr raw "gpio" [])
          (sectionOr raw "reconnect" []) (sectionOr raw "escalation" []) (relaySection raw)
          (sectionOr raw "api" []) := by
    intro f
    unfold sectionChecks relaySection
    rcases hreader : table raw "reader" with e | reader <;> [rfl; obtain rfl := table_eq hreader]
    rcases hserial : table raw "serial" with e | serial <;> [rfl; obtain rfl := table_eq hserial]
    rcases hgpio : table raw "gpio" with e | gpio <;> [rfl; obtain rfl := table_eq hgpio]
    rcases hreconnect : table raw "reconnect" with e | reconnect <;> [rfl; obtain rfl := table_eq hreconnect]
    rcases hescalation : table raw "escalation" with e | escalation <;> [rfl; obtain rfl := table_eq hescalation]
    rcases hrelay : tableOr raw "relay" [("backend", .string "simulated")] with e | relay <;>
      [rfl; obtain rfl := tableOr_eq hrelay]
    rcases hapi : tableOr raw "api" [] with e | api <;> [rfl; obtain rfl := tableOr_eq hapi]
    rfl
  unfold parse
  simp only [check_bind]
  rw [hsections]
  unfold readings
  simp only [inOrder_append, ← readIdentity_check, ← readSerial_check, ← readGpio_check, ← readBackoff_check,
    ← readEscalation_check, ← readApi_check, bind_assoc]
  refine congrArg (inOrder (sectionChecks raw) >>= ·) (funext fun _ => ?_)
  cases readIdentity (sectionOr raw "reader" []) <;> [rfl; skip]
  cases readSerial (sectionOr raw "serial" []) <;> [rfl; skip]
  cases readGpio (sectionOr raw "gpio" []) <;> [rfl; skip]
  cases readBackoff (sectionOr raw "reconnect" []) <;> [rfl; skip]
  cases readEscalation (sectionOr raw "escalation" []) <;> [rfl; skip]
  cases string (relaySection raw) "backend" <;> [rfl; skip]
  cases readApi (sectionOr raw "api" []) <;> rfl

-- ---------------------------------------------------------------------------
-- What an accepted document holds
-- ---------------------------------------------------------------------------

/-- The sections of a document that was parsed. -/
structure Parsed (raw : Table) (config : Configuration) : Prop where
  serial : readSerial (sectionOr raw "serial" []) = .ok config.serial
  gpio : readGpio (sectionOr raw "gpio" []) = .ok config.gpio
  backoff : readBackoff (sectionOr raw "reconnect" []) = .ok config.backoff
  escalation : readEscalation (sectionOr raw "escalation" []) = .ok config.escalation
  relay : string (relaySection raw) "backend" = .ok config.relay.backend
  api : readApi (sectionOr raw "api" []) = .ok config.api

theorem parsed_of_parse {raw : Table} {config : Configuration} (h : parse raw = .ok config) :
    Parsed raw config := by
  unfold parse at h
  simp only [bind_ok] at h
  obtain ⟨reader, hreader, serial, hserial, gpio, hgpio, reconnect, hreconnect, escalation, hescalation,
    relay, hrelay, api, hapi, identity, hidentity, serial', hserial', gpio', hgpio', backoff, hbackoff,
    escalation', hescalation', backend, hbackend, api', hapi', hconfig⟩ := h
  obtain rfl := table_eq hserial
  obtain rfl := table_eq hgpio
  obtain rfl := table_eq hreconnect
  obtain rfl := table_eq hescalation
  obtain rfl := tableOr_eq hrelay
  obtain rfl := tableOr_eq hapi
  obtain rfl : _ = config := Except.ok.inj hconfig
  exact ⟨hserial', hgpio', hbackoff, hescalation', hbackend, hapi'⟩

theorem backoff_numbers {reconnect : Table} {policy : BackoffPolicy} (h : readBackoff reconnect = .ok policy) :
    number reconnect "minimum_seconds" = .ok policy.minimum ∧
      number reconnect "maximum_seconds" = .ok policy.maximum := by
  unfold readBackoff at h
  simp only [bind_ok] at h
  obtain ⟨minimum, hminimum, maximum, hmaximum, jitter, -, hpolicy⟩ := h
  unfold BackoffPolicy.construct at hpolicy
  split at hpolicy
  · cases hpolicy
  split at hpolicy
  · cases hpolicy
  obtain rfl := Except.ok.inj hpolicy
  exact ⟨hminimum, hmaximum⟩

theorem escalation_numbers {escalation : Table} {policy : EscalationPolicy}
    (h : readEscalation escalation = .ok policy) :
    number escalation "warning_window_seconds" = .ok policy.warningWindow ∧
      number escalation "critical_window_seconds" = .ok policy.criticalWindow ∧
        number escalation "reset_after_seconds" = .ok policy.resetAfter := by
  unfold readEscalation at h
  simp only [bind_ok] at h
  obtain ⟨warningCount, -, warningWindow, hwarning, criticalCount, -, criticalWindow, hcritical,
    resetAfter, hreset, hpolicy⟩ := h
  unfold EscalationPolicy.construct at hpolicy
  split at hpolicy
  · cases hpolicy
  split at hpolicy
  · cases hpolicy
  obtain rfl := Except.ok.inj hpolicy
  exact ⟨hwarning, hcritical, hreset⟩

/-- The host is stripped, the threshold read if it is given. -/
theorem api_fields {api : Table} {config : ApiConfiguration} (h : readApi api = .ok config) :
    orDefault (fun table name => strip <$> string table name) api "host" "127.0.0.1" = .ok config.host ∧
      orDefault number api "operational_snapshot_stale_after_seconds" 10 =
        .ok config.operationalSnapshotStaleAfterSeconds := by
  unfold readApi at h
  simp only [bind_ok] at h
  obtain ⟨enabled, -, host, hhost, port, -, pageSize, -, stale, hstale, hconfig⟩ := h
  obtain rfl := Except.ok.inj hconfig
  exact ⟨hhost, hstale⟩

/-- What is left after stripping begins with a character that is no space. -/
theorem nonblank_strip {text : String} (h : strip text ≠ "") : ∃ c ∈ (strip text).toList, isSpace c = false := by
  unfold strip at h ⊢
  generalize (text.toList.dropWhile isSpace).reverse = rest at h ⊢
  rw [String.toList_ofList]
  have hrest : rest.dropWhile isSpace ≠ [] := by
    intro hnil
    rw [hnil] at h
    exact h rfl
  exact ⟨(rest.dropWhile isSpace).head hrest, List.mem_reverse.mpr (List.head_mem hrest),
    List.head_dropWhile_not isSpace hrest⟩

theorem host_nonblank {api : Table} {config : ApiConfiguration} (h : readApi api = .ok config)
    (hhost : config.host ≠ "") : ∃ c ∈ config.host.toList, isSpace c = false := by
  have hread := (api_fields h).1
  unfold orDefault at hread
  split at hread
  · cases htext : string api "host" with
    | error e =>
      simp only [htext] at hread
      cases hread
    | ok text =>
      simp only [htext] at hread
      have hstrip : strip text = config.host := Except.ok.inj hread
      rw [← hstrip] at hhost ⊢
      exact nonblank_strip hhost
  · have hdefault : "127.0.0.1" = config.host := Except.ok.inj hread
    rw [← hdefault]
    exact ⟨'1', by decide, by decide⟩

-- ---------------------------------------------------------------------------
-- The whole
-- ---------------------------------------------------------------------------

/-- The checks that follow the `try`, on what they read. -/
def contracts (raw : Table) : List (Loads Unit) :=
  [readSerial (sectionOr raw "serial" []) >>= fun serial =>
      refuse (serial ≠ approvedSerial) "serial configuration violates the approved reader contract",
    readGpio (sectionOr raw "gpio" []) >>= fun gpio =>
      refuse (gpio ≠ approvedGpio) "GPIO configuration violates the approved GPIO contract",
    string (relaySection raw) "backend" >>= fun backend =>
      refuse (backend ∉ ["simulated", "raspberry_pi"]) "relay backend must be simulated or raspberry_pi",
    readApi (sectionOr raw "api" []) >>= fun api => refuse (api.host = "") "api host must not be empty",
    readApi (sectionOr raw "api" []) >>= fun api =>
      refuse (¬(1 ≤ api.port ∧ api.port ≤ 65535)) "api port must be between 1 and 65535",
    readApi (sectionOr raw "api" []) >>= fun api =>
      refuse (¬(1 ≤ api.maxEventPageSize ∧ api.maxEventPageSize ≤ 1000))
        "api maximum event page size must be between 1 and 1000",
    readApi (sectionOr raw "api" []) >>= fun api =>
      refuse (api.operationalSnapshotStaleAfterSeconds ≤ 0) "api snapshot freshness threshold must be positive"]

/-- The number fields whose checks are negated comparisons. -/
def unguarded (raw : Table) : List (Loads Number) :=
  [number (sectionOr raw "reconnect" []) "minimum_seconds", number (sectionOr raw "reconnect" []) "maximum_seconds",
    number (sectionOr raw "escalation" []) "warning_window_seconds",
    number (sectionOr raw "escalation" []) "critical_window_seconds",
    number (sectionOr raw "escalation" []) "reset_after_seconds",
    number (sectionOr raw "api" []) "operational_snapshot_stale_after_seconds"]

/-- Documents that are either free of what the loader does not catch, or
rejected for something else. -/
structure Tame (raw : Table) : Prop where
  /-- An integer too large for `float()` is not reached. -/
  convertible : ∀ front back message, readings raw = front ++ .error (.overflowError message) :: back →
    ∃ c ∈ front, c ≠ .ok ()
  /-- A `nan` comes with another fault. -/
  comparable : .ok .nan ∈ unguarded raw → ∃ c ∈ readings raw ++ contracts raw, c ≠ .ok ()

theorem refuse_ok {refused : Prop} [Decidable refused] {message : String} {u : Unit} :
    refuse refused message = .ok u ↔ ¬refused := by
  unfold refuse
  split <;> simp [*]

/-- A contract raises nothing but a `ConfigurationError`. -/
theorem refuse_error {α : Type} {refused : Prop} [Decidable refused] {message : String} {rest : Loads α}
    {e : LoadingError} (h : (refuse refused message >>= fun _ => rest) = .error e) :
    e = .configurationError message ∨ rest = .error e := by
  unfold refuse at h
  split at h
  · exact .inl (Except.error.inj h).symm
  · exact .inr h

theorem approve_check {raw : Table} {config : Configuration} (h : Parsed raw config) :
    check (approve config) = inOrder (contracts raw) := by
  unfold approve contracts
  rw [h.serial, h.gpio, h.relay, h.api]
  simp only [check_bind, ok_bind, inOrder]
  rfl

theorem approve_error {config : Configuration} {e : LoadingError} (h : approve config = .error e) :
    ∃ message, e = .configurationError message := by
  unfold approve at h
  rcases refuse_error h with rfl | h
  · exact ⟨_, rfl⟩
  rcases refuse_error h with rfl | h
  · exact ⟨_, rfl⟩
  rcases refuse_error h with rfl | h
  · exact ⟨_, rfl⟩
  rcases refuse_error h with rfl | h
  · exact ⟨_, rfl⟩
  rcases refuse_error h with rfl | h
  · exact ⟨_, rfl⟩
  rcases refuse_error h with rfl | h
  · exact ⟨_, rfl⟩
  rcases refuse_error h with rfl | h
  · exact ⟨_, rfl⟩
  cases h

/-- What has passed the contracts. -/
structure Approved (config : Configuration) : Prop where
  serial : config.serial = approvedSerial
  gpio : config.gpio = approvedGpio
  host : config.api.host ≠ ""
  port : 1 ≤ config.api.port ∧ config.api.port ≤ 65535
  pageSize : 1 ≤ config.api.maxEventPageSize ∧ config.api.maxEventPageSize ≤ 1000
  stale : ¬config.api.operationalSnapshotStaleAfterSeconds ≤ 0

theorem approved_of_approve {config config' : Configuration} (h : approve config = .ok config') :
    config' = config ∧ Approved config := by
  unfold approve at h
  simp only [bind_ok, refuse_ok] at h
  obtain ⟨-, hserial, -, hgpio, -, -, -, hhost, -, hport, -, hpage, -, hstale, hconfig⟩ := h
  exact ⟨(Except.ok.inj hconfig).symm, not_not.mp hserial, not_not.mp hgpio, hhost, not_not.mp hport,
    not_not.mp hpage, hstale⟩

/-- The numbers of a parsed document behind the negated comparisons. -/
def Configuration.unguarded (config : Configuration) : List Number :=
  [config.backoff.minimum, config.backoff.maximum, config.escalation.warningWindow,
    config.escalation.criticalWindow, config.escalation.resetAfter,
    config.api.operationalSnapshotStaleAfterSeconds]

/-- A threshold that is not given is not `nan`. -/
theorem stale_nan {raw : Table} {config : Configuration} (h : Parsed raw config) :
    number (sectionOr raw "api" []) "operational_snapshot_stale_after_seconds" = .ok .nan ↔
      config.api.operationalSnapshotStaleAfterSeconds = .nan := by
  have hread := (api_fields h.api).2
  unfold orDefault at hread
  split at hread
  · rw [hread, Except.ok.injEq]
  · rename_i habsent
    have hdefault : (10 : Number) = config.api.operationalSnapshotStaleAfterSeconds := Except.ok.inj hread
    have hnone : number (sectionOr raw "api" []) "operational_snapshot_stale_after_seconds" =
        .error (invalidType "operational_snapshot_stale_after_seconds") := by
      unfold number
      rw [Option.not_isSome_iff_eq_none.mp habsent]
    rw [hnone, ← hdefault]
    exact ⟨nofun, nofun⟩

theorem nan_iff {raw : Table} {config : Configuration} (h : Parsed raw config) :
    .ok .nan ∈ unguarded raw ↔ .nan ∈ config.unguarded := by
  obtain ⟨hminimum, hmaximum⟩ := backoff_numbers h.backoff
  obtain ⟨hwarning, hcritical, hreset⟩ := escalation_numbers h.escalation
  simp only [unguarded, Configuration.unguarded, hminimum, hmaximum, hwarning, hcritical, hreset, List.mem_cons,
    List.not_mem_nil, or_false, Except.ok.injEq, eq_comm (a := Number.nan),
    eq_comm (a := (Except.ok Number.nan : Loads Number)), stale_nan h]

/-- The negated comparisons leave out `nan` only. -/
theorem sane_iff {raw : Table} {config : Configuration} (hparsed : Parsed raw config)
    (happroved : Approved config) : Sane config ↔ .nan ∉ config.unguarded := by
  have hzero : (0 : Number) ≠ .nan := nofun
  constructor
  · intro hsane hnan
    simp only [Configuration.unguarded, List.mem_cons, List.not_mem_nil, or_false] at hnan
    rcases hnan with h | h | h | h | h | h
    · exact (Number.ne_nan_of_lt hsane.minimum_pos).2 h.symm
    · exact (Number.ne_nan_of_le hsane.minimum_le).2 h.symm
    · exact (Number.ne_nan_of_lt hsane.warningWindow_pos).2 h.symm
    · exact (Number.ne_nan_of_le hsane.warningWindow_le).2 h.symm
    · exact (Number.ne_nan_of_lt hsane.resetAfter_pos).2 h.symm
    · exact (Number.ne_nan_of_lt hsane.stale_pos).2 h.symm
  · intro hnan
    simp only [Configuration.unguarded, List.mem_cons, List.not_mem_nil, or_false, not_or] at hnan
    obtain ⟨hminimum, hmaximum, hwarning, hcritical, hreset, hstale⟩ := hnan
    obtain ⟨hpositive, hordered⟩ := not_or.mp config.backoff.bounds
    obtain ⟨hcount, hcounts⟩ := not_or.mp config.escalation.thresholds
    obtain ⟨hwindow, hwindows⟩ := not_or.mp config.escalation.windows
    obtain ⟨hwindows, hquiet⟩ := not_or.mp hwindows
    exact
      { serial := happroved.serial
        gpio := happroved.gpio
        minimum_pos := (Number.not_le (Ne.symm hminimum) hzero).mp hpositive
        minimum_le := (Number.not_lt (Ne.symm hmaximum) (Ne.symm hminimum)).mp hordered
        jitter_nonneg := config.backoff.jitter_range.1
        jitter_le := config.backoff.jitter_range.2
        warningCount_pos := not_le.mp hcount
        warningCount_lt := not_le.mp hcounts
        warningWindow_pos := (Number.not_le (Ne.symm hwarning) hzero).mp hwindow
        warningWindow_le := (Number.not_lt (Ne.symm hcritical) (Ne.symm hwarning)).mp hwindows
        resetAfter_pos := (Number.not_le (Ne.symm hreset) hzero).mp hquiet
        stale_pos := (Number.not_le (Ne.symm hstale) hzero).mp happroved.stale
        port := happroved.port
        pageSize := happroved.pageSize
        host := host_nonblank hparsed.api happroved.host
        identity := by
          have hconstrained := config.readerIdentity.constrained
          rw [not_and_or, not_or, ← Ne, ← Ne, ← Ne, Option.ne_none_iff_isSome, Option.ne_none_iff_isSome,
            Option.ne_none_iff_isSome] at hconstrained
          exact hconstrained }

section
variable {message : String}

theorem check_other {α : Type} {reading : Loads α} :
    check reading = .error (.otherError message) ↔ reading = .error (.otherError message) := by
  cases reading <;> simp [check]

theorem bind_other {α β : Type} {x : Loads α} {f : α → Loads β} :
    x >>= f = .error (.otherError message) ↔
      x = .error (.otherError message) ∨ ∃ a, x = .ok a ∧ f a = .error (.otherError message) := by
  cases x <;> simp

theorem table_other (parent : Table) (name : String) : table parent name ≠ .error (.otherError message) := by
  unfold table
  split <;> simp

theorem tableOr_other (parent : Table) (name : String) (default : Table) :
    tableOr parent name default ≠ .error (.otherError message) := by
  unfold tableOr
  split <;> simp

theorem integer_other (table : Table) (name : String) : integer table name ≠ .error (.otherError message) := by
  unfold integer
  split <;> simp [invalidType]

theorem number_other (table : Table) (name : String) : number table name ≠ .error (.otherError message) := by
  unfold number
  split
  · unfold float
    split <;> simp
  all_goals simp [invalidType]

theorem string_other (table : Table) (name : String) : string table name ≠ .error (.otherError message) := by
  unfold string
  split <;> simp [invalidType]

theorem boolean_other (table : Table) (name : String) : boolean table name ≠ .error (.otherError message) := by
  unfold boolean
  split <;> simp [invalidType]

theorem optionalInteger_other (table : Table) (name : String) :
    optionalInteger table name ≠ .error (.otherError message) := by
  unfold optionalInteger
  split <;> simp [invalidType]

theorem optionalString_other (table : Table) (name : String) :
    optionalString table name ≠ .error (.otherError message) := by
  unfold optionalString
  split <;> simp [invalidType]

theorem orDefault_other {α : Type} {read : Table → String → Loads α} {table : Table} {name : String} {default : α}
    (h : read table name ≠ .error (.otherError message)) :
    orDefault read table name default ≠ .error (.otherError message) := by
  unfold orDefault
  split
  · exact h
  · simp

theorem stripped_other (table : Table) (name : String) :
    (strip <$> string table name) ≠ .error (.otherError message) := by
  have hstring := @string_other message table name
  cases htext : string table name with
  | ok text => simp [Functor.map, Except.map]
  | error e =>
    rw [htext] at hstring
    simpa [Functor.map, Except.map] using hstring

theorem readIdentity_other (reader : Table) : readIdentity reader ≠ .error (.otherError message) := by
  have hconstruct (byIdPath : Option String) (vid pid : Option Int) (serialNumber manufacturer product : Option String) :
      ReaderIdentity.construct byIdPath vid pid serialNumber manufacturer product ≠ .error (.otherError message) := by
    unfold ReaderIdentity.construct
    split <;> simp
  simp [readIdentity, bind_other, optionalString_other, optionalInteger_other, hconstruct]

theorem readBackoff_other (reconnect : Table) : readBackoff reconnect ≠ .error (.otherError message) := by
  have hconstruct (minimum maximum jitter : Number) :
      BackoffPolicy.construct minimum maximum jitter ≠ .error (.otherError message) := by
    unfold BackoffPolicy.construct
    split
    · simp
    split <;> simp
  simp [readBackoff, bind_other, number_other, hconstruct]

theorem readEscalation_other (escalation : Table) : readEscalation escalation ≠ .error (.otherError message) := by
  have hconstruct (warningCount : Int) (warningWindow : Number) (criticalCount : Int) (criticalWindow resetAfter : Number) :
      EscalationPolicy.construct warningCount warningWindow criticalCount criticalWindow resetAfter ≠
        .error (.otherError message) := by
    unfold EscalationPolicy.construct
    split
    · simp
    split <;> simp
  simp [readEscalation, bind_other, integer_other, number_other, hconstruct]

/-- What `tomllib` has read is read to its end, or fails with an exception of the other kinds. -/
theorem readings_other (raw : Table) : ∀ c ∈ readings raw, c ≠ .error (.otherError message) := by
  simp only [readings, sectionChecks, identityChecks, serialChecks, gpioChecks, backoffChecks, escalationChecks,
    apiChecks, List.forall_mem_append, List.forall_mem_cons, ne_eq, check_other]
  simp [table_other, tableOr_other, integer_other, number_other, string_other, boolean_other, optionalInteger_other,
    optionalString_other, orDefault_other, stripped_other, readIdentity_other, readBackoff_other, readEscalation_other]

end

theorem parsed_meets_iff (raw : Table) : Meets (loadConfiguration (.ok raw)) ↔ Tame raw := by
  have hverdict := parse_check raw
  unfold loadConfiguration
  rw [ok_bind]
  cases hparse : parse raw with
  | error e =>
    rw [hparse] at hverdict
    have hfirst : inOrder (readings raw) = .error e := hverdict.symm
    have hcomparable : .ok .nan ∈ unguarded raw → ∃ c ∈ readings raw ++ contracts raw, c ≠ .ok () := by
      obtain ⟨front, back, hreadings, -⟩ := inOrder_error.mp hfirst
      exact fun _ => ⟨.error e, by simp [hreadings], nofun⟩
    have hconvertible : (∀ message, e ≠ .overflowError message) → Tame raw := by
      refine fun hne => ⟨fun front back message hreadings => ?_, hcomparable⟩
      by_contra hall
      push Not at hall
      have hoverflow := inOrder_error.mpr ⟨front, back, hreadings, hall⟩
      rw [hfirst] at hoverflow
      exact hne message (Except.error.inj hoverflow)
    cases e with
    | configurationError message => exact iff_of_true ⟨message, rfl⟩ (hconvertible nofun)
    | valueError message => exact iff_of_true ⟨message, rfl⟩ (hconvertible nofun)
    | osError message => exact iff_of_true ⟨message, rfl⟩ (hconvertible nofun)
    | overflowError message =>
      refine iff_of_false ?_ fun htame => ?_
      · rintro ⟨message', hmessage⟩
        cases hmessage
      · obtain ⟨front, back, hreadings, hall⟩ := inOrder_error.mp hfirst
        obtain ⟨c, hc, hfails⟩ := htame.convertible front back message hreadings
        exact hfails (hall c hc)
    | otherError message =>
      obtain ⟨front, back, hreadings, -⟩ := inOrder_error.mp hfirst
      exact absurd rfl (readings_other raw (.error (.otherError message)) (by simp [hreadings]))
  | ok config =>
    rw [hparse] at hverdict
    have hall : ∀ c ∈ readings raw, c = .ok () := inOrder_ok.mp hverdict.symm
    have hparsed := parsed_of_parse hparse
    have hcontracts := approve_check hparsed
    have hconvertible : ∀ front back message, readings raw = front ++ .error (.overflowError message) :: back →
        ∃ c ∈ front, c ≠ .ok () := by
      intro front back message hreadings
      cases hall (.error (.overflowError message)) (by simp [hreadings])
    show Meets (approve config) ↔ Tame raw
    cases happrove : approve config with
    | error e =>
      rw [happrove] at hcontracts
      obtain ⟨message, rfl⟩ := approve_error happrove
      obtain ⟨front, back, hfirst, -⟩ := inOrder_error.mp hcontracts.symm
      exact iff_of_true ⟨message, rfl⟩
        ⟨hconvertible, fun _ => ⟨.error (.configurationError message), by simp [hfirst], nofun⟩⟩
    | ok config' =>
      rw [happrove] at hcontracts
      obtain ⟨rfl, happroved⟩ := approved_of_approve happrove
      have hpassed := inOrder_ok.mp hcontracts.symm
      refine (sane_iff hparsed happroved).trans ((nan_iff hparsed).not.symm.trans ⟨fun hnan => ?_, fun htame hnan => ?_⟩)
      · exact ⟨hconvertible, fun h => absurd h hnan⟩
      · obtain ⟨c, hc, hfails⟩ := htame.comparable hnan
        rcases List.mem_append.mp hc with hc | hc
        · exact hfails (hall c hc)
        · exact hfails (hpassed c hc)

/-- The exceptions of the `except` clause. -/
def LoadingError.isCaught : LoadingError → Bool
  | .overflowError _ | .otherError _ => false
  | _ => true

/-- Files that give a tame document, or that are rejected before there is one. -/
def TameFile : Loads Table → Prop
  | .ok raw => Tame raw
  | .error e => e.isCaught = true

/-- The loader does what it should on the tame files, and on no others. -/
theorem meets_iff_tame (document : Loads Table) : Meets (loadConfiguration document) ↔ TameFile document := by
  cases document with
  | ok raw => exact parsed_meets_iff raw
  | error e =>
    cases e with
    | configurationError message => exact iff_of_true ⟨message, rfl⟩ rfl
    | valueError message => exact iff_of_true ⟨message, rfl⟩ rfl
    | osError message => exact iff_of_true ⟨message, rfl⟩ rfl
    | overflowError message =>
      refine iff_of_false ?_ Bool.false_ne_true
      rintro ⟨message', hmessage⟩
      cases hmessage
    | otherError message =>
      refine iff_of_false ?_ Bool.false_ne_true
      rintro ⟨message', hmessage⟩
      cases hmessage

def reconnect (minimum : Toml) : Table :=
  [("minimum_seconds", minimum), ("maximum_seconds", .float 30), ("jitter", .float 0)]

/-- The simulation's document, with another `minimum_seconds`. -/
def simulation (minimum : Toml) : Table :=
  [("reader", .table [("by_id_path", .string "/dev/serial/by-id/bridgewire-simulated-reader")]),
    ("serial", .table [("baud_rate", .integer 9600), ("data_bits", .integer 8), ("parity", .string "none"),
      ("stop_bits", .integer 1), ("timeout_seconds", .float 1), ("maximum_record_bytes", .integer 16)]),
    ("gpio", .table [("numbering", .string "BCM"), ("channel", .integer 23), ("normal_high", .boolean false),
      ("release_high", .boolean true), ("release_seconds", .float 3)]),
    ("reconnect", .table (reconnect minimum)),
    ("escalation", .table [("warning_count", .integer 3), ("warning_window_seconds", .float 60),
      ("critical_count", .integer 5), ("critical_window_seconds", .float 300),
      ("reset_after_seconds", .float 900)])]

theorem parse_simulation {minimum : Toml} {e : LoadingError} (h : readBackoff (reconnect minimum) = .error e) :
    parse (simulation minimum) = .error e := by
  show (readBackoff (reconnect minimum) >>= _) = _
  rw [h]
  rfl

theorem readBackoff_overflows {n : Int} {e : LoadingError} (h : float n = .error e) :
    readBackoff (reconnect (.integer n)) = .error e := by
  have hnumber : number (reconnect (.integer n)) "minimum_seconds" = float n := by
    unfold number
    rw [show (reconnect (.integer n)).get "minimum_seconds" = some (.integer n) from rfl]
  unfold readBackoff
  rw [hnumber, h]
  rfl

def tooLarge : Nat := 2 ^ 1024

theorem float_tooLarge :
    float tooLarge = .error (.overflowError "int too large to convert to float") := by
  have hbound : floatBound ≤ tooLarge := Nat.sub_le _ _
  exact if_pos (by rwa [Int.natAbs_natCast])

theorem not_meets_of_overflow {raw : Table} {message : String} (h : parse raw = .error (.overflowError message)) :
    ¬Meets (loadConfiguration (.ok raw)) := by
  unfold loadConfiguration
  rw [ok_bind, h]
  rintro ⟨message', hmessage⟩
  cases hmessage

theorem not_meets_of_nan {raw : Table}
    (h : ∃ config, loadConfiguration (.ok raw) = .ok config ∧ config.backoff.minimum = .nan) :
    ¬Meets (loadConfiguration (.ok raw)) := by
  obtain ⟨config, haccepted, hnan⟩ := h
  rw [haccepted]
  exact fun hsane => (Number.ne_nan_of_lt hsane.minimum_pos).2 hnan

/-- `minimum_seconds = nan` is accepted, `minimum_seconds = 2 ** 1024` raises an
`OverflowError`, and brackets nested too deeply a `RecursionError`. -/
theorem not_always_meets :
    ¬Meets (loadConfiguration (.ok (simulation (.float .nan)))) ∧
      ¬Meets (loadConfiguration (.ok (simulation (.integer tooLarge)))) ∧
      ¬Meets (loadConfiguration (.error (.otherError "maximum recursion depth exceeded"))) := by
  refine ⟨not_meets_of_nan ⟨_, rfl, rfl⟩,
    not_meets_of_overflow (parse_simulation (readBackoff_overflows float_tooLarge)), ?_⟩
  rintro ⟨message, hmessage⟩
  cases hmessage

end Bridgewire.Loading
