import Bridgewire.Runtime.Frame

/-!
# A runtime in a larger world

The ports of a runtime over a part of a world: they change nothing beside it.
-/

namespace Bridgewire

open Effect

section
variable {W V α : Type} (p : Component W V)

/-- Nothing has changed but the part. -/
def BesidePart (s s' : W) : Prop := ∃ t, s' = p.set t s

instance : IsPreorder W (BesidePart p) where
  refl s := ⟨p.get s, (p.set_get s).symm⟩
  trans := by
    rintro s _ _ ⟨t, rfl⟩ ⟨t', rfl⟩
    exact ⟨t', p.set_set t' t s⟩

def readingOver (read : V → α × V) (s : W) : α × W := ((read (p.get s)).1, p.set (read (p.get s)).2 s)

theorem zoom_beside (port : Port V α) : Within (BesidePart p) (zoom p port) := fun s => ⟨(port.run (p.get s)).2, rfl⟩

theorem readingOver_beside (read : V → α × V) (s : W) : BesidePart p s (readingOver p read s).2 := ⟨_, rfl⟩

end

namespace AccessController

variable {W V : Type}

def Wiring.over (c : Wiring V) (p : Component W V) : Wiring W where
  authorization := ⟨fun credential => zoom p (c.authorization.classify credential)⟩
  relay :=
    { setup := fun numbering channel => zoom p (c.relay.setup numbering channel)
      command := fun high => zoom p (c.relay.command high)
      cleanup := zoom p c.relay.cleanup }
  audit := ⟨fun event => zoom p (c.audit.append event)⟩
  notifications := ⟨fun event => zoom p (c.notifications.enqueue event)⟩
  clock := ⟨readingOver p c.clock.monotonic, readingOver p c.clock.now⟩
  uuid4 := readingOver p c.uuid4
  releaseSeconds := c.releaseSeconds
  gpioChannel := c.gpioChannel
  releaseSeconds_pos := c.releaseSeconds_pos

theorem Wiring.over_keeps (c : Wiring V) (p : Component W V) : (c.over p).Keeps (BesidePart p) where
  classify _ := zoom_beside p _
  append _ := zoom_beside p _
  enqueue _ := zoom_beside p _
  monotonic := readingOver_beside p _
  now := readingOver_beside p _
  uuid4 := readingOver_beside p _

theorem Ports.Keeps.mono {c : Ports W} {R R' : W → W → Prop} (h : c.Keeps R) (hr : ∀ s s', R s s' → R' s s') :
    c.Keeps R' where
  classify credential := (h.classify credential).mono hr
  append event := (h.append event).mono hr
  enqueue event := (h.enqueue event).mono hr
  monotonic w := hr _ _ (h.monotonic w)
  now w := hr _ _ (h.now w)
  uuid4 w := hr _ _ (h.uuid4 w)

end AccessController

namespace ReaderSupervisor

variable {W V : Type}

def Settings.over (settings : Settings V) (p : Component W V) : Settings W where
  identity := settings.identity
  enumerateDevices := zoom p settings.enumerateDevices
  openReader path := zoom p (settings.openReader path)
  read session := zoom p (settings.read session)
  closeSession session := zoom p (settings.closeSession session)
  backoff := settings.backoff
  repeatedFailureThreshold := settings.repeatedFailureThreshold
  randomUnit := zoom p settings.randomUnit
  monotonic := settings.monotonic.map (readingOver p)
  threshold_pos := settings.threshold_pos
  delay := settings.delay

theorem Settings.over_keeps (settings : Settings V) (p : Component W V) : (settings.over p).Keeps (BesidePart p) where
  enumerateDevices := zoom_beside p _
  openReader _ := zoom_beside p _
  read _ := zoom_beside p _
  closeSession _ := zoom_beside p _
  randomUnit := zoom_beside p _
  monotonic := by
    intro monotonic hmonotonic
    obtain ⟨before, -, rfl⟩ := Option.mem_map.mp hmonotonic
    exact readingOver_beside p before

theorem Settings.Keeps.mono {settings : Settings W} {R R' : W → W → Prop} (h : settings.Keeps R)
    (hr : ∀ s s', R s s' → R' s s') : settings.Keeps R' where
  enumerateDevices := h.enumerateDevices.mono hr
  openReader path := (h.openReader path).mono hr
  read session := (h.read session).mono hr
  closeSession session := (h.closeSession session).mono hr
  randomUnit := h.randomUnit.mono hr
  monotonic monotonic hmonotonic w := hr _ _ (h.monotonic monotonic hmonotonic w)

end ReaderSupervisor

namespace BridgewireRuntime

variable {W V : Type}

/-- The same runtime in a larger world. -/
def Wiring.over (c : Wiring V) (p : Component W V) : Wiring W where
  access := c.access.over p
  reader := c.reader.over p
  health := ⟨fun report => zoom p (c.health.report report)⟩
  audit := ⟨fun event => zoom p (c.audit.append event)⟩
  clock := ⟨readingOver p c.clock.monotonic, readingOver p c.clock.now⟩
  uuid4 := readingOver p c.uuid4
  maximumRecordBytes := c.maximumRecordBytes
  waiter := ⟨fun seconds => readingOver p (c.waiter.wait seconds)⟩
  hasStore := c.hasStore

theorem Wiring.over_keeps (c : Wiring V) (p : Component W V) : (c.over p).Keeps (BesidePart p) where
  access := c.access.over_keeps p
  reader := c.reader.over_keeps p
  report _ := zoom_beside p _
  append _ := zoom_beside p _
  now := readingOver_beside p _
  uuid4 := readingOver_beside p _
  wait _ := readingOver_beside p _

theorem Wiring.Keeps.mono {c : Wiring W} {R R' : W → W → Prop} (h : c.Keeps R) (hr : ∀ s s', R s s' → R' s s') :
    c.Keeps R' where
  access := h.access.mono hr
  reader := h.reader.mono hr
  report report := (h.report report).mono hr
  append event := (h.append event).mono hr
  now w := hr _ _ (h.now w)
  uuid4 w := hr _ _ (h.uuid4 w)
  wait seconds w := hr _ _ (h.wait seconds w)

/-- The relay, too, is in the part. -/
theorem over_call (c : Wiring V) (p : Component W V) (operation : AccessController.Operation) :
    Within (AccessController.OnWorld (BesidePart p)) (AccessController.call (c.over p).access operation) :=
  AccessController.call_within (c.access.over_keeps p) operation (zoom_beside p _) (fun _ => zoom_beside p _)
    (fun _ => zoom_beside p _) fun _ => zoom_beside p _

end BridgewireRuntime

end Bridgewire
