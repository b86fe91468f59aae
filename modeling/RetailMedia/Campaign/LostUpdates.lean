import RetailMedia.Campaign.SessionLedger

/-! Concurrent reservations: an absolute write loses no update as long as it finds the counters
that it was computed from. -/

namespace RetailMedia

open Interleaving Ledger ReservationTx

/-! ## Assertions -/

structure ReserveRequest.Plain (c : String) (r : ReserveRequest) : Prop where
  campaign : r.campaignId = c
  units : r.capacityUnits = none
  default : 0 ≤ r.defaultTotalCapacity

structure ReserveRequest.Passed (c : String) (r : ReserveRequest) : Prop where
  campaign : r.campaignId = c
  nonNegative : r.NonNegative

/-- What phase 1 keeps of an hour: the session's row, and enough room on it. -/
structure Needed (d : Db) (slots : List SlotWrite) (r : ReserveRequest) (p : Int × Nat)
    (need : InventorySlot × Int) : Prop where
  key : need.1.key = (r.displaySurfaceId, p)
  present : need.1.id ∈ d.inventorySlots.map (·.id)
  keyed : ∀ s ∈ d.inventorySlots, s.id = need.1.id → s.key = need.1.key
  nonneg : 0 ≤ need.2
  room : need.2 ≤ need.1.availableCapacity
  own : ownRow need.1 slots = need.1
  fits : need.1.Fits

def ReservationPhase.Sound (d : Db) (c : String) (slots : List SlotWrite) :
    ReservationPhase → Prop
  | .detecting r _ _ _ => r.Passed c
  | .existing r => r.Passed c
  | .checking r todo needed => r.Passed c ∧ (∀ w ∈ slots, w.flushed = true) ∧
      ∃ done, slotPairs r.startsAt r.endsAt = done ++ todo ∧
        List.Forall₂ (Needed d slots r) done needed
  | _ => True

/-- The campaign's bookings as the session has them. -/
def ReservationTx.own (x : ReservationTx) (d : Db) : List InventoryBooking :=
  match x.phase with
  | .begin => d.bookingsFor x.campaignId
  | .releasing todo => x.bookings ++ todo
  | .reviving _ todo => x.bookings ++ todo
  | _ => x.bookings

structure ReservationTx.Sound (d : Db) (x : ReservationTx) : Prop where
  session : Session d x.campaignId x.slots (x.own d)
  begun : x.phase = .begin → x.bookings = []
  default : 0 ≤ x.cfg.defaultSlotCapacity
  requests : ∀ r ∈ x.requests, r.Plain x.campaignId
  phase : x.phase.Sound d x.campaignId x.slots

theorem own_releasing {d : Db} {x : ReservationTx} {todo : List InventoryBooking}
    (h : x.phase = .releasing todo) : x.own d = x.bookings ++ todo := by
  unfold ReservationTx.own
  rw [h]

theorem own_reviving {d : Db} {x : ReservationTx} {r : ReserveRequest}
    {todo : List InventoryBooking} (h : x.phase = .reviving r todo) :
    x.own d = x.bookings ++ todo := by
  unfold ReservationTx.own
  rw [h]

/-! ## One booking of a loop -/

theorem Session.settle {d : Db} {x : ReservationTx} {b : InventoryBooking}
    {bs : List InventoryBooking} (h : Session d x.campaignId x.slots (x.bookings ++ b :: bs))
    (hd : Reservable d) (hall : ∀ w ∈ x.slots, w.flushed = true) {selected : Bool}
    {onSlot : InventoryBooking → InventorySlot → InventorySlot}
    {onBooking : InventoryBooking → InventoryBooking} (phase : ReservationPhase)
    (hfollow : selected = true → Follows onSlot onBooking b)
    (hkept : ∀ s, (onSlot b s).key = s.key ∧ (onSlot b s).totalCapacity = s.totalCapacity ∧
      (onSlot b s).internalBlockedCapacity = s.internalBlockedCapacity)
    (hcampaign : (onBooking b).campaignId = b.campaignId)
    (hfits : selected = true → ∀ s, d.slot b.inventorySlotId = some s →
      (onSlot b (ownRow s x.slots)).Fits) :
    Session d x.campaignId (x.settle d selected onSlot onBooking b phase).slots
      ((x.settle d selected onSlot onBooking b phase).bookings ++ bs) := by
  have hb : b ∈ x.bookings ++ b :: bs := List.mem_append_right _ List.mem_cons_self
  cases hselected : selected with
  | false =>
      show Session d x.campaignId x.slots (x.bookings ++ [b] ++ bs)
      rw [List.append_assoc]
      exact h
  | true =>
      unfold ReservationTx.settle
      rw [if_pos rfl]
      cases hslot : d.slot b.inventorySlotId with
      | none =>
          show Session d x.campaignId x.slots (x.bookings ++ [b] ++ bs)
          rw [List.append_assoc]
          exact h
      | some s =>
          have hid : s.id = b.inventorySlotId := Rows.get_key hslot
          have hs : s ∈ d.inventorySlots := Rows.get_mem hslot
          have ⟨hres, hcom⟩ := h.weight_le hd hall hb hs hid
          have hf := hfollow hselected
          show Session d x.campaignId (changeSlot (onSlot b) s x.slots)
            (x.bookings ++ [onBooking b] ++ bs)
          rw [List.append_assoc]
          have hadds : Adds s.id ((onBooking b).reservedUnits - b.reservedUnits)
              ((onBooking b).committedUnits - b.committedUnits)
              (x.bookings ++ b :: bs) (x.bookings ++ onBooking b :: bs) := by
            rw [hid]
            exact ⟨owed_replace x.bookings bs hf.account, owed_replace x.bookings bs hf.account⟩
          apply h.change (List.mem_map_of_mem hs) hadds
          · have hk := hkept (ownRow s x.slots)
            exact ⟨hf.id _, hk.1, hk.2.1, hk.2.2, hf.reserved _ hres hcom, hf.booked _ hres hcom,
              hfits hselected s hslot⟩
          · intro e he
            rcases List.mem_append.1 he with he | he
            · exact h.bookings e (List.mem_append_left _ he)
            · rcases List.mem_cons.1 he with rfl | he
              · rw [hf.units, hcampaign, hf.account]
                exact h.bookings b hb
              · exact h.bookings e (List.mem_append_right _ (List.mem_cons_of_mem b he))

theorem releaseSlot_key (b : InventoryBooking) (s : InventorySlot) :
    (releaseSlot b s).key = s.key := by
  unfold releaseSlot
  split
  · rfl
  · rfl

/-- A released booking leaves its slot with no less room. -/
theorem Follows.fits_of_release {b : InventoryBooking}
    {onSlot : InventoryBooking → InventorySlot → InventorySlot}
    {onBooking : InventoryBooking → InventoryBooking} (h : Follows onSlot onBooking b)
    {s : InventorySlot} (hres : b.reservedUnits ≤ s.reservedCapacity)
    (hcom : b.committedUnits ≤ s.bookedCapacity)
    (hweight : (onBooking b).reservedUnits + (onBooking b).committedUnits ≤
      b.reservedUnits + b.committedUnits)
    (htotal : (onSlot b s).totalCapacity = s.totalCapacity)
    (hinternal : (onSlot b s).internalBlockedCapacity = s.internalBlockedCapacity)
    (hs : s.Fits) : (onSlot b s).Fits := by
  have hreserved := h.reserved s hres hcom
  have hbooked := h.booked s hres hcom
  unfold InventorySlot.Fits InventorySlot.taken at hs ⊢
  omega

/-! ## Phase 2 -/

theorem Needed.id_inj {d : Db} {slots : List SlotWrite} {r : ReserveRequest} {p p' : Int × Nat}
    {need need' : InventorySlot × Int} (h : Needed d slots r p need)
    (h' : Needed d slots r p' need') (hid : need.1.id = need'.1.id) : p = p' := by
  have ⟨s, hs, hsid⟩ := List.mem_map.1 h.present
  have hkey := h.keyed s hs hsid
  have hkey' := h'.keyed s hs (hsid.trans hid)
  rw [h.key] at hkey
  rw [h'.key, hkey] at hkey'
  exact (Prod.ext_iff.1 hkey').2

theorem bookOne_adds {r : ReserveRequest} {x : ReservationTx} {need : InventorySlot × Int} :
    Adds need.1.id need.2 0 x.bookings (bookOne r x need).bookings := by
  constructor
  · exact fun j ↦ owed_concat x.bookings _ j
  · exact fun j ↦ owed_concat x.bookings _ j

theorem Session.bookOne {d : Db} {x : ReservationTx} {r : ReserveRequest} {p : Int × Nat}
    {need : InventorySlot × Int} (h : Session d x.campaignId x.slots x.bookings)
    (hr : r.campaignId = x.campaignId) (hneed : Needed d x.slots r p need) :
    Session d x.campaignId (ReservationTx.bookOne r x need).slots
      (ReservationTx.bookOne r x need).bookings := by
  apply h.change hneed.present bookOne_adds
  · rw [hneed.own]
    refine ⟨rfl, rfl, rfl, rfl, rfl, (add_zero _).symm, ?_⟩
    exact addReserved_fits hneed.fits hneed.nonneg hneed.room
  · intro e he
    rcases List.mem_append.1 he with he | he
    · exact h.bookings e he
    · rw [List.mem_singleton.1 he]
      exact ⟨hneed.nonneg, hr, hneed.present⟩

theorem ownRow_changeSlot_of_ne {f : InventorySlot → InventorySlot} {s s' : InventorySlot}
    (hne : s.id ≠ s'.id) (ws : List SlotWrite) : ownRow s' (changeSlot f s ws) = ownRow s' ws := by
  induction ws with
  | nil =>
      show ownRow s' [{ read := s, row := f s }] = s'
      rw [ownRow, if_neg hne]
      rfl
  | cons w ws ih =>
      unfold changeSlot
      by_cases hid : w.read.id = s.id
      · rw [if_pos hid, ownRow, ownRow, if_neg (hid ▸ hne), if_neg (hid ▸ hne)]
      · rw [if_neg hid, ownRow, ownRow, ih]

theorem foldl_bookOne_kept (r : ReserveRequest) (needed : List (InventorySlot × Int))
    (x : ReservationTx) :
    (needed.foldl (bookOne r) x).campaignId = x.campaignId ∧
      (needed.foldl (bookOne r) x).cfg = x.cfg ∧
      (needed.foldl (bookOne r) x).requests = x.requests := by
  induction needed generalizing x with
  | nil => exact ⟨rfl, rfl, rfl⟩
  | cons need needed ih => exact ih (bookOne r x need)

/-- All hours of the window: different hours are different rows, so each is still as it was
checked when it is booked. -/
theorem Session.bookAll {d : Db} {r : ReserveRequest} {needed : List (InventorySlot × Int)}
    {done : List (Int × Nat)} {x : ReservationTx}
    (h : Session d x.campaignId x.slots x.bookings) (hr : r.campaignId = x.campaignId)
    (hdone : done.Nodup) (hneeded : List.Forall₂ (Needed d x.slots r) done needed) :
    Session d x.campaignId (needed.foldl (ReservationTx.bookOne r) x).slots
      (needed.foldl (ReservationTx.bookOne r) x).bookings := by
  induction needed generalizing done x with
  | nil => exact h
  | cons need needed ih =>
      cases hneeded with
      | @cons p _ ps _ hneed hrest =>
          have ⟨hnot, hps⟩ := List.nodup_cons.1 hdone
          have hrest' : List.Forall₂ (Needed d (ReservationTx.bookOne r x need).slots r) ps
              needed := by
            have hother : ∀ p' ∈ ps, p' ≠ p := fun p' hp' heq ↦ hnot (heq ▸ hp')
            apply ((List.forall₂_and_left ps needed).2 ⟨hother, hrest⟩).imp
            rintro p' need' ⟨hp', hneed'⟩
            have hne : need.1.id ≠ need'.1.id := fun heq ↦ hp' (hneed.id_inj hneed' heq).symm
            exact { hneed' with own := (ownRow_changeSlot_of_ne hne x.slots).trans hneed'.own }
          exact ih (x := ReservationTx.bookOne r x need) (h.bookOne hr hneed) hr hps hrest'

/-! ## The outline -/

/-- The rows of the campaigns whose UPDATE has run are the ones that the session holds. -/
def ReservationTx.relies (x : ReservationTx) (id : Nat) : Prop :=
  ∃ w ∈ x.slots, w.flushed = true ∧ w.read.id = id

/-- An UPDATE finds the counters of its slot as the session read them. -/
def UpdateCurrent (d : Db) (x : ReservationTx) : Prop :=
  ∀ w ∈ x.pending, ∀ s ∈ d.slot w.read.id, s.counters = w.read.counters

instance (d : Db) (x : ReservationTx) : Decidable (UpdateCurrent d x) :=
  inferInstanceAs (Decidable (∀ w ∈ x.pending, ∀ s ∈ d.slot w.read.id, _))

/-- A released or expired booking that is taken up again finds room on its slot. -/
def RevivalFits (d : Db) (x : ReservationTx) : Prop :=
  match x.phase with
  | .reviving r (b :: _) => toRevive r b = true → ∀ s ∈ d.slot b.inventorySlotId,
      (ownRow s x.slots).taken + b.capacityUnits ≤ s.totalCapacity
  | _ => True

instance (d : Db) (x : ReservationTx) : Decidable (RevivalFits d x) := by
  unfold RevivalFits
  split
  · infer_instance
  · infer_instance

def WritesCurrent (d : Db) (x : ReservationTx) : Prop :=
  UpdateCurrent d x ∧ (x.pending = none → RevivalFits d x)

instance (d : Db) (x : ReservationTx) : Decidable (WritesCurrent d x) :=
  inferInstanceAs (Decidable (_ ∧ _))

/-- `campaign` is the campaign that each transaction works for. -/
def reservationOutline {τ : Type*} (campaign : τ → Option String) :
    Outline τ Nat Db ReservationTx where
  inv := Reservable
  sound d t x := campaign t = some x.campaignId ∧ x.Sound d
  relies := ReservationTx.relies
  guard := WritesCurrent

theorem approvalRequests_plain {d : Db} {cfg : InventoryConfig} {c : String}
    (hcfg : 0 ≤ cfg.defaultSlotCapacity) : ∀ r ∈ approvalRequests d cfg c, r.Plain c := by
  intro r hr
  have ⟨p, _, hp⟩ := List.mem_flatMap.1 hr
  unfold placementRequests at hp
  cases hsurface : p.displaySurfaceId with
  | none =>
      rw [hsurface] at hp
      cases hp
  | some surfaceId =>
      rw [hsurface] at hp
      have ⟨f, _, hf⟩ := List.mem_map.1 hp
      rw [← hf]
      exact ⟨rfl, rfl, hcfg⟩

/-- A phase without a loop over the bookings, with its assertion. -/
structure ReservationPhase.Straight (d : Db) (c : String) (slots : List SlotWrite)
    (phase : ReservationPhase) : Prop where
  own : ∀ (x : ReservationTx) (d' : Db),
    ({ x with phase := phase } : ReservationTx).own d' = x.bookings
  started : phase ≠ .begin
  sound : phase.Sound d c slots

theorem failed_straight (d : Db) (c : String) (slots : List SlotWrite) (message : String) :
    (ReservationPhase.failed message).Straight d c slots :=
  ⟨fun _ _ ↦ rfl, nofun, trivial⟩

theorem detect_straight {d d' : Db} {x : ReservationTx} {r : ReserveRequest} {c : String}
    {slots : List SlotWrite} (hr : r.Plain c) : (x.detect d r).Straight d' c slots := by
  unfold ReservationTx.detect
  split_ifs with hwindow hboth hsov
  · exact failed_straight ..
  · exact failed_straight ..
  · exact failed_straight ..
  · have hunits (n : Int) (hn : n ∈ r.capacityUnits) : 0 ≤ n := by
      rw [hr.units] at hn
      cases hn
    have hshare (n : Int) (hn : n ∈ r.sovPercent) : 1 ≤ n ∧ n ≤ 100 := by
      rw [Option.mem_def.1 hn] at hsov
      simp only [sovOutOfRange, Option.any_some, decide_eq_true_eq, not_not] at hsov
      omega
    cases Rows.get (·.id) r.displaySurfaceId d.displaySurfaces with
    | none => exact failed_straight ..
    | some surface =>
        dsimp only
        split
        · exact failed_straight ..
        · exact ⟨fun _ _ ↦ rfl, nofun, hr.campaign, hunits, hshare, hr.default⟩

theorem detected_straight {d : Db} {r : ReserveRequest} {c : String} {slots : List SlotWrite}
    {rules : List Conflict} {entries : List SlotEntry} (hr : r.Passed c) :
    (detected r rules entries).Straight d c slots := by
  unfold detected
  extract_lets capacity
  by_cases hblocking : rules ++ capacity = []
  · rw [if_pos hblocking]
    exact ⟨fun _ _ ↦ rfl, nofun, hr⟩
  · rw [if_neg hblocking]
    exact failed_straight ..

theorem readEntry_straight {d d' : Db} {x : ReservationTx} {r : ReserveRequest} {c : String}
    {slots : List SlotWrite} {rules : List Conflict} {p : Int × Nat} {ps : List (Int × Nat)}
    {entries : List SlotEntry} (hr : r.Passed c) :
    (x.readEntry d r rules p ps entries).Straight d' c slots := by
  unfold ReservationTx.readEntry
  cases d.slotAt r.displaySurfaceId p with
  | none => exact failed_straight ..
  | some s => exact ⟨fun _ _ ↦ rfl, nofun, hr⟩

/-- One hour of phase 1: the row that was read has room. -/
theorem checkSlot_straight {d : Db} {x : ReservationTx}
    (hx : Session d x.campaignId x.slots x.bookings) (hd : Reservable d) {r : ReserveRequest}
    {p : Int × Nat} {ps : List (Int × Nat)} {needed : List (InventorySlot × Int)}
    (h : ReservationPhase.Sound d x.campaignId x.slots (.checking r (p :: ps) needed)) :
    (x.checkSlot d r p ps needed).Straight d x.campaignId x.slots := by
  obtain ⟨hr, hall, done, hwindow, hneeded⟩ := h
  unfold ReservationTx.checkSlot
  cases hslot : d.slotAt r.displaySurfaceId p with
  | none => exact failed_straight ..
  | some s =>
      dsimp only
      split
      · exact failed_straight ..
      · rename_i hroom
        have hs : s ∈ d.inventorySlots := List.mem_of_find?_eq_some hslot
        have hat : s.IsAt r.displaySurfaceId p := by simpa using List.find?_some hslot
        have hstands := hx.stands hd hall hs
        have htotal : 0 ≤ (ownRow s x.slots).totalCapacity := by
          rw [hstands.total]
          exact hd.total s hs
        have hneed : Needed d x.slots r p (ownRow s x.slots, requestedUnits r.capacityUnits
            r.sovPercent r.defaultTotalCapacity (ownRow s x.slots)) := by
          constructor
          · exact hstands.key.trans (isAt_iff.1 hat)
          · show (ownRow s x.slots).id ∈ _
            rw [hstands.id]
            exact List.mem_map_of_mem hs
          · intro s' hs' hid
            rw [Rows.key_inj hd.balance.ids hs' hs (hid.trans hstands.id)]
            exact hstands.key.symm
          · exact requestedUnits_nonneg hr.nonNegative htotal
          · exact not_lt.1 hroom
          · show ownRow (ownRow s x.slots) x.slots = ownRow s x.slots
            rcases ownRow_cases s hx.ids with ⟨w, hw, hid, hrow⟩ | ⟨hnot, hrow⟩
            · rw [ownRow_of_mem hx.ids hw (hid.trans hstands.id.symm), hrow]
            · rw [hrow, hrow]
          · exact hstands.fits
        refine ⟨fun _ _ ↦ rfl, nofun, hr, hall, done ++ [p], ?_,
          List.rel_append hneeded (.cons hneed .nil)⟩
        rw [hwindow, List.append_assoc]
        rfl

theorem all_flushed {x : ReservationTx} (h : x.pending = none) :
    ∀ w ∈ x.slots, w.flushed = true := by
  intro w hw
  simpa using List.find?_eq_none.1 h w hw

/-! ## The statements -/

section Statements

variable {d : Db} {x : ReservationTx}

/-- A step to a phase without a loop. -/
theorem ReservationTx.Sound.goto (h : x.Sound d) (hown : x.own d = x.bookings)
    {phase : ReservationPhase} (hphase : phase.Straight d x.campaignId x.slots) :
    ({ x with phase := phase } : ReservationTx).Sound d := by
  refine ⟨?_, fun heq ↦ absurd heq hphase.started, h.default, h.requests, hphase.sound⟩
  show Session d x.campaignId x.slots _
  rw [hphase.own, ← hown]
  exact h.session

theorem ReservationTx.Sound.flush (h : x.Sound d) {w : SlotWrite}
    (hcurrent : ∀ s, d.slot w.read.id = some s → s.counters = w.read.counters)
    (hw : w ∈ x.slots) (hunflushed : w.flushed = false) :
    ({ x with slots := flushSlot d w.read.id x.slots } : ReservationTx).Sound d := by
  have hsession : Session d x.campaignId (flushSlot d w.read.id x.slots) (x.own d) := by
    apply h.session.flush
    intro v hv hid s hs
    rw [Rows.key_inj h.session.ids hv hw hid]
    exact hcurrent s hs
  have hown : ({ x with slots := flushSlot d w.read.id x.slots } : ReservationTx).own d = x.own d :=
    rfl
  refine ⟨hown ▸ hsession, h.begun, h.default, h.requests, ?_⟩
  have hphase := h.phase
  show x.phase.Sound d x.campaignId (flushSlot d w.read.id x.slots)
  cases hx : x.phase with
  | detecting r rules todo entries => rw [hx] at hphase; exact hphase
  | existing r => rw [hx] at hphase; exact hphase
  | checking r todo needed =>
      -- phase 1 starts only when everything is flushed
      rw [hx] at hphase
      have hflushed := hphase.2.1 w hw
      rw [hunflushed] at hflushed
      cases hflushed
  | begin => trivial
  | releasing todo => trivial
  | reserving => trivial
  | reviving r todo => trivial
  | failed message => trivial

theorem settle_fields (d : Db) (x : ReservationTx) (selected : Bool)
    (onSlot : InventoryBooking → InventorySlot → InventorySlot)
    (onBooking : InventoryBooking → InventoryBooking) (b : InventoryBooking)
    (phase : ReservationPhase) :
    (x.settle d selected onSlot onBooking b phase).campaignId = x.campaignId ∧
      (x.settle d selected onSlot onBooking b phase).cfg = x.cfg ∧
      (x.settle d selected onSlot onBooking b phase).requests = x.requests ∧
      (x.settle d selected onSlot onBooking b phase).phase = phase := by
  unfold ReservationTx.settle
  split
  · exact ⟨rfl, rfl, rfl, rfl⟩
  · exact ⟨rfl, rfl, rfl, rfl⟩

/-- A loop over the bookings goes on with the next one. -/
theorem ReservationTx.Sound.settle {b : InventoryBooking} {bs : List InventoryBooking}
    (h : x.Sound d) (hown : x.own d = x.bookings ++ b :: bs) (hd : Reservable d)
    (hall : ∀ w ∈ x.slots, w.flushed = true) {selected : Bool}
    {onSlot : InventoryBooking → InventorySlot → InventorySlot}
    {onBooking : InventoryBooking → InventoryBooking} {phase : ReservationPhase}
    (hphase : phase = .releasing bs ∨ ∃ r, phase = .reviving r bs)
    (hfollow : selected = true → Follows onSlot onBooking b)
    (hkept : ∀ s, (onSlot b s).key = s.key ∧ (onSlot b s).totalCapacity = s.totalCapacity ∧
      (onSlot b s).internalBlockedCapacity = s.internalBlockedCapacity)
    (hcampaign : (onBooking b).campaignId = b.campaignId)
    (hfits : selected = true → ∀ s, d.slot b.inventorySlotId = some s →
      (onSlot b (ownRow s x.slots)).Fits) :
    (x.settle d selected onSlot onBooking b phase).Sound d := by
  have hsession := h.session
  rw [hown] at hsession
  have hsettled := hsession.settle hd hall phase hfollow hkept hcampaign hfits
  have ⟨hc, hcfg, hrequests, hphase'⟩ := settle_fields d x selected onSlot onBooking b phase
  have hown' : (x.settle d selected onSlot onBooking b phase).own d =
      (x.settle d selected onSlot onBooking b phase).bookings ++ bs := by
    unfold ReservationTx.own
    rw [hphase']
    rcases hphase with rfl | ⟨r, rfl⟩
    · rfl
    · rfl
  refine ⟨?_, fun heq ↦ ?_, ?_, ?_, ?_⟩
  · rw [hown', hc]
    exact hsettled
  · rw [hphase'] at heq
    rcases hphase with rfl | ⟨r, rfl⟩
    · cases heq
    · cases heq
  · rw [hcfg]
    exact h.default
  · rw [hrequests, hc]
    exact h.requests
  · rw [hphase']
    rcases hphase with rfl | ⟨r, rfl⟩
    · trivial
    · trivial

theorem ReservationTx.Sound.release {b : InventoryBooking} {bs : List InventoryBooking}
    (h : x.Sound d) (hx : x.phase = .releasing (b :: bs)) (hd : Reservable d)
    (hall : ∀ w ∈ x.slots, w.flushed = true) :
    (x.settle d b.isActive releaseSlot (releaseBooking x.now) b (.releasing bs)).Sound d := by
  have hown : x.own d = x.bookings ++ b :: bs := own_releasing hx
  have hsession := h.session
  rw [hown] at hsession
  have hb : b ∈ x.bookings ++ b :: bs := List.mem_append_right _ List.mem_cons_self
  have hunits := (hsession.bookings b hb).1
  have hres := InventoryBooking.reservedUnits_nonneg hunits
  have hcom := InventoryBooking.committedUnits_nonneg hunits
  apply h.settle hown hd hall (.inl rfl)
  · exact fun hactive ↦ release_follows x.now "re-reserve cleanup" hactive
  · intro s
    have hkept := releaseSlot_kept b s
    exact ⟨releaseSlot_key b s, hkept.2, hkept.1⟩
  · rfl
  · intro hactive s hs
    have hmem := Rows.get_mem hs
    have ⟨hr, hc⟩ := hsession.weight_le hd hall hb hmem (Rows.get_key hs)
    have hkept := releaseSlot_kept b (ownRow s x.slots)
    apply (release_follows x.now "re-reserve cleanup" hactive).fits_of_release hr hc
    · show (0 : Int) + 0 ≤ b.reservedUnits + b.committedUnits
      omega
    · exact hkept.2
    · exact hkept.1
    · exact (hsession.stands hd hall hmem).fits

theorem ReservationTx.Sound.revive {r : ReserveRequest} {b : InventoryBooking}
    {bs : List InventoryBooking} (h : x.Sound d) (hx : x.phase = .reviving r (b :: bs))
    (hd : Reservable d) (hall : ∀ w ∈ x.slots, w.flushed = true)
    (hroom : toRevive r b = true → ∀ s, d.slot b.inventorySlotId = some s →
      (ownRow s x.slots).taken + b.capacityUnits ≤ s.totalCapacity) (reservedUntil : Int) :
    (x.settle d (toRevive r b) (fun b ↦ InventorySlot.addReserved b.capacityUnits)
      (·.revive reservedUntil) b (.reviving r bs)).Sound d := by
  have hown : x.own d = x.bookings ++ b :: bs := own_reviving hx
  have hsession := h.session
  rw [hown] at hsession
  apply h.settle hown hd hall (.inr ⟨r, rfl⟩)
  · intro hselected
    simp only [toRevive, decide_eq_true_eq] at hselected
    exact revive_follows reservedUntil (by simpa using hselected.2)
  · exact fun s ↦ ⟨rfl, rfl, rfl⟩
  · rfl
  · intro hselected s hs
    have hfits := hroom hselected s hs
    have htotal := (hsession.stands hd hall (Rows.get_mem hs)).total
    unfold InventorySlot.Fits
    show (ownRow s x.slots).bookedCapacity +
      ((ownRow s x.slots).reservedCapacity + b.capacityUnits) +
        (ownRow s x.slots).internalBlockedCapacity ≤ (ownRow s x.slots).totalCapacity
    unfold InventorySlot.taken at hfits
    omega

theorem ReservationTx.Sound.bookAll {r : ReserveRequest} {needed : List (InventorySlot × Int)}
    (h : x.Sound d) (hx : x.phase = .checking r [] needed) :
    ({ needed.foldl (bookOne r) x with phase := .reserving } : ReservationTx).Sound d := by
  have hphase := h.phase
  rw [hx] at hphase
  obtain ⟨hr, -, done, hwindow, hneeded⟩ := hphase
  have hdone : done.Nodup := by
    have hnodup := slotPairs_nodup r.startsAt r.endsAt
    rw [hwindow, List.append_nil] at hnodup
    exact hnodup
  have hsession : Session d x.campaignId x.slots x.bookings := by
    have hs := h.session
    unfold ReservationTx.own at hs
    rw [hx] at hs
    exact hs
  have ⟨hc, hcfg, hrequests⟩ := foldl_bookOne_kept r needed x
  have hbooked := hsession.bookAll hr.campaign hdone hneeded
  refine ⟨?_, nofun, ?_, ?_, trivial⟩
  · show Session d (needed.foldl (bookOne r) x).campaignId _ _
    rw [hc]
    exact hbooked
  · show 0 ≤ (needed.foldl (bookOne r) x).cfg.defaultSlotCapacity
    rw [hcfg]
    exact h.default
  · show ∀ q ∈ (needed.foldl (bookOne r) x).requests, _
    rw [hrequests]
    show ∀ q ∈ x.requests, ReserveRequest.Plain (needed.foldl (bookOne r) x).campaignId q
    rw [hc]
    exact h.requests

theorem ReservationTx.Sound.existingOrCheck {r : ReserveRequest} (h : x.Sound d)
    (hx : x.phase = .existing r) (hall : ∀ w ∈ x.slots, w.flushed = true) :
    (x.existingOrCheck r).Sound d := by
  have hr : r.Passed x.campaignId := by
    have hphase := h.phase
    rw [hx] at hphase
    exact hphase
  have hown : x.own d = x.bookings := by
    unfold ReservationTx.own
    rw [hx]
  unfold ReservationTx.existingOrCheck
  split_ifs
  · refine ⟨?_, nofun, h.default, h.requests, trivial⟩
    show Session d x.campaignId x.slots ([] ++ x.bookings)
    rw [List.nil_append, ← hown]
    exact h.session
  · exact h.goto hown (failed_straight ..)
  · exact h.goto hown ⟨fun _ _ ↦ rfl, nofun, hr, hall, [], rfl, .nil⟩

/-! ## The commit -/

theorem Needed.write {slots : List SlotWrite} {r : ReserveRequest} {p : Int × Nat}
    {need : InventorySlot × Int} (hx : Session d x.campaignId x.slots x.bookings)
    (hd : Reservable d) (hall : ∀ w ∈ x.slots, w.flushed = true)
    (h : Needed d slots r p need) : Needed (x.write d) slots r p need := by
  constructor
  · exact h.key
  · rw [write_slot_ids hx hd hall]
    exact h.present
  · intro s' hs' hid
    have ⟨s, hs, hrow⟩ := List.mem_map.1 hs'
    have hstands := hx.stands hd hall hs
    rw [← hrow] at hid ⊢
    rw [hstands.key]
    exact h.keyed s hs (hstands.id.symm.trans hid)
  · exact h.nonneg
  · exact h.room
  · exact h.own
  · exact h.fits

theorem ReservationTx.Sound.write {y : ReservationTx} (hy : y.Sound d)
    (hx : Session d x.campaignId x.slots x.bookings) (hd : Reservable d)
    (hall : ∀ w ∈ x.slots, w.flushed = true) (hc : y.campaignId ≠ x.campaignId)
    (hapart : ∀ w ∈ y.slots, w.flushed = true → w.read.id ∉ x.slots.map (·.read.id)) :
    y.Sound (x.write d) := by
  have hown : y.own (x.write d) = y.own d := by
    unfold ReservationTx.own
    rw [write_bookingsFor hx hc]
  refine ⟨?_, hy.begun, hy.default, hy.requests, ?_⟩
  · rw [hown]
    exact hx.write hd hall hc hy.session hapart
  · have hphase := hy.phase
    cases hphase' : y.phase with
    | checking r todo needed =>
        rw [hphase'] at hphase
        obtain ⟨hr, hflushed, done, hwindow, hneeded⟩ := hphase
        exact ⟨hr, hflushed, done, hwindow, hneeded.imp fun _ _ h ↦ h.write hx hd hall⟩
    | detecting r rules todo entries => rw [hphase'] at hphase; exact hphase
    | existing r => rw [hphase'] at hphase; exact hphase
    | begin => trivial
    | releasing todo => trivial
    | reserving => trivial
    | reviving r todo => trivial
    | failed message => trivial

theorem commit_some {d' : Db} (h : x.commit d = some d') : d' = x.write d := by
  unfold ReservationTx.commit at h
  split at h
  · exact (Option.some.inj h).symm
  · cases h

end Statements

/-- What is changed but not flushed is not relied on yet. -/
theorem relies_changeSlot {f : InventorySlot → InventorySlot} {s : InventorySlot}
    {ws : List SlotWrite} {id : Nat}
    (h : ∃ w ∈ changeSlot f s ws, w.flushed = true ∧ w.read.id = id) :
    ∃ w ∈ ws, w.flushed = true ∧ w.read.id = id := by
  induction ws with
  | nil =>
      obtain ⟨w, hw, hflushed, -⟩ := h
      rw [List.mem_singleton.1 hw] at hflushed
      cases hflushed
  | cons v ws ih =>
      obtain ⟨w, hw, hflushed, hid⟩ := h
      unfold changeSlot at hw
      split at hw
      · rcases List.mem_cons.1 hw with rfl | hw
        · exact ⟨v, List.mem_cons_self, hflushed, hid⟩
        · exact ⟨w, List.mem_cons_of_mem v hw, hflushed, hid⟩
      · rcases List.mem_cons.1 hw with rfl | hw
        · exact ⟨w, List.mem_cons_self, hflushed, hid⟩
        · obtain ⟨u, hu, hrest⟩ := ih ⟨w, hw, hflushed, hid⟩
          exact ⟨u, List.mem_cons_of_mem v hu, hrest⟩

theorem relies_settle {d : Db} {x : ReservationTx} {selected : Bool}
    {onSlot : InventoryBooking → InventorySlot → InventorySlot}
    {onBooking : InventoryBooking → InventoryBooking} {b : InventoryBooking}
    {phase : ReservationPhase} {id : Nat}
    (h : (x.settle d selected onSlot onBooking b phase).relies id) : x.relies id := by
  unfold ReservationTx.settle at h
  split at h
  · exact h
  · exact relies_changeSlot h

theorem relies_bookAll {r : ReserveRequest} {needed : List (InventorySlot × Int)}
    {x : ReservationTx} {id : Nat} (h : (needed.foldl (bookOne r) x).relies id) : x.relies id := by
  induction needed generalizing x with
  | nil => exact h
  | cons need needed ih => exact relies_changeSlot (ih h)

theorem relies_existingOrCheck {r : ReserveRequest} {x : ReservationTx} {id : Nat}
    (h : (x.existingOrCheck r).relies id) : x.relies id := by
  unfold ReservationTx.existingOrCheck at h
  split_ifs at h
  · exact h
  · exact h
  · exact h

theorem existingOrCheck_campaignId (x : ReservationTx) (r : ReserveRequest) :
    (x.existingOrCheck r).campaignId = x.campaignId := by
  unfold ReservationTx.existingOrCheck
  split_ifs
  · rfl
  · rfl
  · rfl

/-- A phase statement keeps the outline: nothing is left to flush. -/
theorem phaseStmt_keeps {τ : Type*} {campaign : τ → Option String}
    (hcampaign : ∀ t u c, campaign t = some c → campaign u = some c → t = u)
    {x : ReservationTx} (hnone : x.pending = none) :
    (reservationOutline campaign).Keeps x (phaseStmt x) := by
  have hall := all_flushed hnone
  unfold phaseStmt
  cases hx : x.phase with
  | begin =>
      rintro d t - ⟨hc, h⟩ -
      have hsession : Session d x.campaignId x.slots (d.bookingsFor x.campaignId) := by
        have hs := h.session
        unfold ReservationTx.own at hs
        rw [hx] at hs
        exact hs
      refine ⟨⟨hc, ?_, nofun, h.default, approvalRequests_plain h.default, trivial⟩, fun _ hr ↦ hr⟩
      show Session d x.campaignId x.slots (x.bookings ++ d.bookingsFor x.campaignId)
      rw [h.begun hx]
      exact hsession
  | releasing todo =>
      cases todo with
      | nil =>
          rintro d t - ⟨hc, h⟩ -
          have hown : x.own d = x.bookings := (own_releasing hx).trans (List.append_nil _)
          exact ⟨⟨hc, h.goto hown ⟨fun _ _ ↦ rfl, nofun, trivial⟩⟩, fun _ hr ↦ hr⟩
      | cons b bs =>
          rintro d t hd ⟨hc, h⟩ -
          have hkept := settle_fields d x b.isActive releaseSlot (releaseBooking x.now) b
            (.releasing bs)
          exact ⟨⟨hc.trans (congrArg some hkept.1.symm), h.release hx hd hall⟩,
            fun _ ↦ relies_settle⟩
  | reviving r todo =>
      cases todo with
      | nil =>
          rintro d t - ⟨hc, h⟩ -
          have hown : x.own d = x.bookings := (own_reviving hx).trans (List.append_nil _)
          exact ⟨⟨hc, h.goto hown ⟨fun _ _ ↦ rfl, nofun, trivial⟩⟩, fun _ hr ↦ hr⟩
      | cons b bs =>
          rintro d t hd ⟨hc, h⟩ hguard
          have hroom : toRevive r b = true → ∀ s, d.slot b.inventorySlotId = some s →
              (ownRow s x.slots).taken + b.capacityUnits ≤ s.totalCapacity := by
            have hfits := hguard.2 hnone
            unfold RevivalFits at hfits
            rw [hx] at hfits
            exact hfits
          have hkept := settle_fields d x (toRevive r b)
            (fun b ↦ InventorySlot.addReserved b.capacityUnits)
            (·.revive (reservedUntil x.now r.reservationTtlHours)) b (.reviving r bs)
          exact ⟨⟨hc.trans (congrArg some hkept.1.symm), h.revive hx hd hall hroom _⟩,
            fun _ ↦ relies_settle⟩
  | existing r =>
      rintro d t - ⟨hc, h⟩ -
      exact ⟨⟨hc.trans (congrArg some (existingOrCheck_campaignId x r).symm),
        h.existingOrCheck hx hall⟩, fun _ ↦ relies_existingOrCheck⟩
  | detecting r rules todo entries =>
      have hown (d : Db) : x.own d = x.bookings := by
        unfold ReservationTx.own
        rw [hx]
      have hr {d : Db} (h : x.Sound d) : r.Passed x.campaignId := by
        have hphase := h.phase
        rw [hx] at hphase
        exact hphase
      cases todo with
      | nil =>
          rintro d t - ⟨hc, h⟩ -
          exact ⟨⟨hc, h.goto (hown d) (detected_straight (hr h))⟩, fun _ hr ↦ hr⟩
      | cons p ps =>
          rintro d t - ⟨hc, h⟩ -
          exact ⟨⟨hc, h.goto (hown d) (readEntry_straight (hr h))⟩, fun _ hr ↦ hr⟩
  | checking r todo needed =>
      have hown (d : Db) : x.own d = x.bookings := by
        unfold ReservationTx.own
        rw [hx]
      cases todo with
      | nil =>
          rintro d t - ⟨hc, h⟩ -
          have hkept := foldl_bookOne_kept r needed x
          exact ⟨⟨hc.trans (congrArg some hkept.1.symm), h.bookAll hx⟩, fun _ ↦ relies_bookAll⟩
      | cons p ps =>
          rintro d t hd ⟨hc, h⟩ -
          have hsession := h.session
          have hphase := h.phase
          rw [hown] at hsession
          rw [hx] at hphase
          exact ⟨⟨hc, h.goto (hown d) (checkSlot_straight hsession hd hphase)⟩, fun _ hr ↦ hr⟩
  | failed message =>
      rintro d d' t hd ⟨hc, h⟩ - ⟨⟩
      exact ⟨hd, fun u y _ hy _ ↦ hy⟩
  | reserving =>
      have hown (d : Db) : x.own d = x.bookings := by
        unfold ReservationTx.own
        rw [hx]
      dsimp only
      cases hrequests : x.requests with
      | cons r rs =>
          rintro d t - ⟨hc, h⟩ -
          have hplain := h.requests
          rw [hrequests] at hplain
          have hgoto := h.goto (hown d)
            (detect_straight (d := d) (x := x) (hplain r List.mem_cons_self))
          refine ⟨⟨hc, hgoto.session, hgoto.begun, hgoto.default, ?_, hgoto.phase⟩, fun _ hr ↦ hr⟩
          exact fun q hq ↦ hplain q (List.mem_cons_of_mem r hq)
      | nil =>
          rintro d d' t hd ⟨hc, h⟩ - hcommit
          have hsession := h.session
          rw [hown] at hsession
          rw [commit_some hcommit]
          refine ⟨hd.write hsession hall, fun u y hne ⟨hcy, hy⟩ hapart ↦ ⟨hcy, ?_⟩⟩
          apply hy.write hsession hd hall
          · exact fun heq ↦ hne (hcampaign u t _ hcy (heq ▸ hc))
          · intro w hw hflushed hmem
            have ⟨v, hv, hid⟩ := List.mem_map.1 hmem
            exact hapart w.read.id ⟨v, hv, hall v hv, hid⟩ ⟨w, hw, hflushed, rfl⟩

theorem reservationOutline_proves {τ : Type*} {campaign : τ → Option String}
    (hcampaign : ∀ t u c, campaign t = some c → campaign u = some c → t = u) :
    (reservationOutline campaign).Proves reservationStmt := by
  intro x
  unfold reservationStmt
  cases hfind : x.pending with
  | none => exact phaseStmt_keeps hcampaign hfind
  | some w =>
      rintro d t - ⟨hc, h⟩ hguard
      have hw : w ∈ x.slots := List.mem_of_find?_eq_some hfind
      have hunflushed : w.flushed = false := by simpa using List.find?_some hfind
      have hcurrent : ∀ s, d.slot w.read.id = some s → s.counters = w.read.counters :=
        hguard.1 w hfind
      refine ⟨⟨hc, h.flush hcurrent hw hunflushed⟩, fun id hid ↦ ?_⟩
      obtain ⟨v, hv, hflushed, hvid⟩ := hid
      rcases mem_flushSlot hv with hold | hnew
      · exact .inl ⟨v, hold, hflushed, hvid⟩
      · exact .inr (congrArg some (hnew.symm.trans hvid))

/-! ## Every interleaving -/

section Interleavings

variable {τ : Type*}

/-- Transactions of different campaigns that have run no statement yet, over slots that exist, on
a ledger that balances within its capacity. -/
structure Reserving (s : System τ Nat Db ReservationTx) : Prop where
  ledger : Reservable s.data
  owner : ∀ b ∈ s.data.inventoryBookings, ∀ p ∈ s.data.campaignPlacements,
    b.campaignPlacementId = p.id → b.campaignId = p.campaignId
  fresh : ∀ t x, s.tx t = some x →
    x.phase = .begin ∧ x.requests = [] ∧ x.slots = [] ∧ x.bookings = []
  apart : ∀ t u x y, s.tx t = some x → s.tx u = some y → x.campaignId = y.campaignId → t = u
  default : ∀ t x, s.tx t = some x → 0 ≤ x.cfg.defaultSlotCapacity
  exist : ∀ t x, s.tx t = some x → ∀ r ∈ approvalRequests s.data x.cfg x.campaignId,
    ∀ p ∈ slotPairs r.startsAt r.endsAt, (s.data.slotAt r.displaySurfaceId p).isSome

def System.campaign (s : System τ Nat Db ReservationTx) (t : τ) : Option String :=
  (s.tx t).map (·.campaignId)

theorem Reserving.campaign_inj {s : System τ Nat Db ReservationTx} (h : Reserving s) {t u : τ}
    {c : String} (ht : System.campaign s t = some c) (hu : System.campaign s u = some c) :
    t = u := by
  have ⟨x, hx, hxc⟩ := Option.map_eq_some_iff.1 ht
  have ⟨y, hy, hyc⟩ := Option.map_eq_some_iff.1 hu
  exact h.apart t u x y hx hy (hxc.trans hyc.symm)

/-- Nothing is changed yet. -/
theorem Reservable.session {d : Db} (h : Reservable d) (c : String) :
    Session d c [] (d.bookingsFor c) := by
  constructor
  · exact List.nodup_nil
  · exact List.forall_mem_nil _
  · exact List.forall_mem_nil _
  · exact fun i _ ↦ ⟨rfl, rfl⟩
  · intro b hb
    have hmem : b ∈ d.inventoryBookings := List.mem_of_mem_filter hb
    have hc : b.campaignId = c := by simpa using (List.mem_filter.1 hb).2
    exact ⟨h.balance.units b hmem, hc, h.balance.slotOf b hmem⟩
  · exact List.forall_mem_nil _

theorem Reserving.sound {s : System τ Nat Db ReservationTx} (h : Reserving s) {t : τ}
    {x : ReservationTx} (hx : s.tx t = some x) : x.Sound s.data := by
  have ⟨hphase, hrequests, hslots, hbookings⟩ := h.fresh t x hx
  have hown : x.own s.data = s.data.bookingsFor x.campaignId := by
    unfold ReservationTx.own
    rw [hphase]
  constructor
  · rw [hown, hslots]
    exact h.ledger.session x.campaignId
  · exact fun _ ↦ hbookings
  · exact h.default t x hx
  · rw [hrequests]
    exact List.forall_mem_nil _
  · rw [hphase]
    trivial

theorem Reserving.holds {s : System τ Nat Db ReservationTx} (h : Reserving s) :
    (reservationOutline (System.campaign s)).Holds s := by
  constructor
  · exact h.ledger
  · intro t x hx
    have hcampaign : System.campaign s t = some x.campaignId := by
      unfold System.campaign
      rw [hx]
      rfl
    exact ⟨hcampaign, h.sound hx⟩
  · intro t x hx id hid
    have ⟨w, hw, _⟩ := hid
    rw [(h.fresh t x hx).2.2.1] at hw
    cases hw

/-- The reserved counter of every slot is the sum of its reserved bookings, and nothing exceeds
the slot's capacity. -/
def Db.SlotsExact (d : Db) : Prop :=
  ∀ s ∈ d.inventorySlots, s.reservedCapacity = d.unitsOn s.id .reserved ∧
    s.bookedCapacity + s.reservedCapacity + s.internalBlockedCapacity ≤ s.totalCapacity

instance : DecidablePred Db.SlotsExact := fun d ↦
  inferInstanceAs (Decidable (∀ s ∈ d.inventorySlots, _))

theorem Reservable.slotsExact {d : Db} (h : Reservable d) : d.SlotsExact := fun s hs ↦
  ⟨(h.balance.conserved s hs).1, h.fits s hs⟩

variable [DecidableEq τ]

/-- Every statement that a step runs meets its condition. -/
def StepCurrent (s : System τ Nat Db ReservationTx) (label : τ × Move) : Prop :=
  ∀ x, s.tx label.1 = some x → label.2 = .advance → Enabled reservationStmt s label.1 x →
    WritesCurrent s.data x

instance (s : System τ Nat Db ReservationTx) (label : τ × Move) :
    Decidable (StepCurrent s label) :=
  inferInstanceAs (Decidable (∀ x ∈ s.tx label.1, label.2 = .advance →
    Enabled reservationStmt s label.1 x → WritesCurrent s.data x))

/-- No update is lost in any interleaving whose UPDATEs find what their session read. -/
theorem slotsExact_of_writesCurrent {s : System τ Nat Db ReservationTx} (hs : Reserving s)
    (l : List (τ × Move)) (hl : Run.Guarded (next reservationStmt) StepCurrent s l) :
    Run.Always (next reservationStmt) (fun s ↦ s.data.SlotsExact) s l := by
  have hproves := reservationOutline_proves fun t u c (ht : System.campaign s t = some c) hu ↦
    hs.campaign_inj ht hu
  exact (hproves.run_always hs.holds hl).mono fun _ h ↦ h.data.slotsExact

/-- Every transaction has ended with its commit: none was rolled back and none failed. -/
def AllCommitted (s : System τ Nat Db ReservationTx) (l : List (τ × Move)) : Prop :=
  (∀ label ∈ l, label.2 = .advance) ∧
    Run.Always (next reservationStmt)
      (fun s ↦ ∀ t, (s.tx t).any (fun x ↦ x.phase.isFailed) = false) s l ∧
    ∀ t, (Run.final (next reservationStmt) s l).tx t = none

end Interleavings

/-! Two campaigns reserve 60 percent of one hour of one surface at the same time. -/

def oneHourSlot : InventorySlot where
  id := 1
  displaySurfaceId := "s1"
  slotDate := 20635
  slotHour := 10
  totalCapacity := 100

def sharedHourDb (percent : Int) : Db :=
  { sharedSurfaceDb with
    campaignFlights := [
      { id := "fa", campaignId := "a", startAt := 1782900000000000, endAt := 1782903600000000 },
      { id := "fb", campaignId := "b", startAt := 1782900000000000, endAt := 1782903600000000 }]
    campaignPlacements := [
      { id := "pa", campaignId := "a", displaySurfaceId := some "s1", shareOfVoicePct := percent },
      { id := "pb", campaignId := "b", displaySurfaceId := some "s1", shareOfVoicePct := percent }]
    inventorySlots := [oneHourSlot] }

def twoReserving (percent : Int) : System Bool Nat Db ReservationTx where
  data := sharedHourDb percent
  holder _ := none
  tx t := some {
    campaignId := if t then "a" else "b", cfg := {}, now := 0, key := if t then 1 else 2 }

theorem sharedHourDb_reservable (percent : Int) : Reservable (sharedHourDb percent) := by
  have hslots {P : InventorySlot → Prop} (h : P oneHourSlot) :
      ∀ s ∈ (sharedHourDb percent).inventorySlots, P s := by
    intro s hs
    rw [List.mem_singleton.1 hs]
    exact h
  refine ⟨⟨List.nodup_singleton 1, List.forall_mem_nil _, List.forall_mem_nil _, hslots rfl,
    hslots rfl⟩, hslots ?_, hslots (by decide)⟩
  show (0 : Int) ≤ 100
  decide

theorem twoReserving_reserving (percent : Int)
    (hexist : ∀ t : Bool, ∀ r ∈ approvalRequests (sharedHourDb percent) {} (if t then "a" else "b"),
      ∀ p ∈ slotPairs r.startsAt r.endsAt,
        ((sharedHourDb percent).slotAt r.displaySurfaceId p).isSome) :
    Reserving (twoReserving percent) where
  ledger := sharedHourDb_reservable percent
  owner := List.forall_mem_nil _
  fresh t x hx := by
    cases Option.some.inj hx
    exact ⟨rfl, rfl, rfl, rfl⟩
  apart t u x y hx hy hc := by
    cases Option.some.inj hx
    cases Option.some.inj hy
    cases t <;> cases u
    · rfl
    · exact absurd hc (by decide)
    · exact absurd hc (by decide)
    · rfl
  default t x hx := by
    cases Option.some.inj hx
    show (0 : Int) ≤ 100
    decide
  exist t x hx := by
    cases Option.some.inj hx
    exact hexist t

/-- Both read the slot, then one after the other writes what it has computed. -/
def lostUpdateSchedule : List (Bool × Move) :=
  List.replicate 8 (true, .advance) ++ List.replicate 8 (false, .advance) ++
    List.replicate 2 (true, .advance) ++ List.replicate 2 (false, .advance)

theorem concurrent_reservations_lose_an_update :
    ¬ ∀ (s : System Bool Nat Db ReservationTx) (l : List (Bool × Move)), Reserving s →
      AllCommitted s l → (Run.final (next reservationStmt) s l).data.SlotsExact := by
  intro h
  have hcommitted : AllCommitted (twoReserving 60) lostUpdateSchedule :=
    ⟨by decide, by decide +kernel, by decide +kernel⟩
  have hexact := h (twoReserving 60) lostUpdateSchedule
    (twoReserving_reserving 60 (by decide +kernel)) hcommitted
  revert hexact
  decide +kernel

/-- The second campaign reads the slot once the first one has committed. -/
def currentSchedule : List (Bool × Move) :=
  List.replicate 2 (false, .advance) ++ List.replicate 10 (true, .advance) ++
    List.replicate 8 (false, .advance)

theorem current_reservations_exact :
    Run.Always (next reservationStmt) (fun s ↦ s.data.SlotsExact) (twoReserving 40)
        currentSchedule ∧
      AllCommitted (twoReserving 40) currentSchedule :=
  ⟨slotsExact_of_writesCurrent (twoReserving_reserving 40 (by decide +kernel)) currentSchedule
      (by decide +kernel),
    by decide, by decide +kernel, by decide +kernel⟩

end RetailMedia
