import ZohoIotSdk.Keyed.Slots
import ZohoIotSdk.Mqtt.SessionRuns

/-!
# The table of message handlers

The table of a client is a map from topic filters to handlers with room for `MAX_MESSAGE_HANDLERS`
of them: on every table that a run reaches, `MQTTSetMessageHandler` does what the map would do
(`setHandler_run`), and a message is given to the handlers of the filters that take its topic.
-/

namespace ZohoIotSdk.Paho

open Atomic (Path Prog Runs)
open Keyed

/-- The handler of a topic filter. -/
def registered (slots : List MessageHandlers) (topicFilter : List UInt8) : Option ℕ :=
  (get MessageHandlers.topicFilter topicFilter slots).bind (·.fp)

/-- How many topic filters have a handler. -/
def handlerCount (slots : List MessageHandlers) : ℕ := (keys MessageHandlers.topicFilter slots).length

/-- A table that is a map. -/
structure HandlerTable (slots : List MessageHandlers) : Prop where
  length_eq : slots.length = maxMessageHandlers
  nodup : (keys MessageHandlers.topicFilter slots).Nodup
  called : ∀ slot ∈ slots, slot.topicFilter.isSome → slot.fp.isSome

variable {slots : List MessageHandlers} {topicFilter : List UInt8} {fp : Option ℕ}

/-- The initial table is one. -/
theorem handlerTable_init : HandlerTable (List.replicate maxMessageHandlers {}) := by
  refine ⟨rfl, by decide, ?_⟩
  intro slot hslot hfilter
  rw [List.eq_of_mem_replicate hslot] at hfilter
  exact absurd hfilter (by decide)

/-- A slot is changed: the new one is free, keeps its filter, or has one that is not in the table. -/
theorem HandlerTable.set (h : HandlerTable slots) {i : ℕ} {slot new : MessageHandlers}
    (hslot : slots[i]? = some slot) (hcalled : new.topicFilter.isSome → new.fp.isSome)
    (hnew : ∀ f, new.topicFilter = some f →
      slot.topicFilter = some f ∨ f ∉ keys MessageHandlers.topicFilter slots) :
    HandlerTable (slots.set i new) where
  length_eq := by rw [List.length_set, h.length_eq]
  nodup := nodup_keys_set hslot h.nodup hnew
  called := by
    intro s hs
    rcases List.mem_or_eq_of_mem_set hs with hs | rfl
    · exact h.called s hs
    · exact hcalled

/-- The search finds a slot exactly when the filter is in the table. -/
theorem findFilter_lt_iff :
    findFilter slots topicFilter < slots.length ↔
      topicFilter ∈ keys MessageHandlers.topicFilter slots := by
  rw [findFilter, List.findIdx_lt_length, keys, List.mem_filterMap]
  simp only [decide_eq_true_eq]

/-- The slot that holds the filter. -/
theorem getElem?_findFilter (h : topicFilter ∈ keys MessageHandlers.topicFilter slots) :
    ∃ slot, slots[findFilter slots topicFilter]? = some slot ∧
      slot.topicFilter = some topicFilter := by
  have hlt := findFilter_lt_iff.mpr h
  refine ⟨_, List.getElem?_eq_getElem hlt, ?_⟩
  exact of_decide_eq_true (List.findIdx_getElem (w := hlt))

/-- A filter has no handler exactly when it is not in the table. -/
theorem registered_eq_none_iff (h : HandlerTable slots) :
    registered slots topicFilter = none ↔
      topicFilter ∉ keys MessageHandlers.topicFilter slots := by
  rw [registered, Option.bind_eq_none_iff, ← get_eq_none_iff]
  constructor
  · intro hnone
    by_contra hne
    obtain ⟨slot, hslot⟩ := Option.ne_none_iff_exists'.mp hne
    have hmem := List.mem_of_find?_eq_some hslot
    have hkey := key_of_get hslot
    have hcalled := h.called slot hmem (by rw [hkey]; rfl)
    rw [hnone slot hslot] at hcalled
    exact absurd hcalled (by decide)
  · intro hnone slot hslot
    rw [hnone] at hslot
    cases hslot

/-- What `MQTTSetMessageHandler` should do to a map with room for so many filters. -/
structure MapUpdate (slots : List MessageHandlers) (topicFilter : List UInt8) (fp : Option ℕ)
    (rc : ℤ) (slots' : List MessageHandlers) : Prop where
  table : HandlerTable slots'
  result : rc = success ↔ registered slots topicFilter ≠ none ∨
    fp ≠ none ∧ handlerCount slots < maxMessageHandlers
  update : registered slots' =
    if rc = success then Function.update (registered slots) topicFilter fp else registered slots

/-- A handler is removed. -/
theorem setHandler_none (h : HandlerTable slots) :
    MapUpdate slots topicFilter none (setHandler slots topicFilter none).1
      (setHandler slots topicFilter none).2 := by
  unfold setHandler
  simp only
  by_cases hmem : topicFilter ∈ keys MessageHandlers.topicFilter slots
  · obtain ⟨slot, hslot, hkey⟩ := getElem?_findFilter hmem
    rw [if_pos (findFilter_lt_iff.mpr hmem)]
    refine ⟨h.set hslot nofun nofun, ?_, ?_⟩
    · exact iff_of_true rfl (.inl fun hnone => (registered_eq_none_iff h).mp hnone hmem)
    · rw [if_pos rfl]
      funext f
      by_cases hf : f = topicFilter
      · subst hf
        rw [Function.update_self, registered, get_set_none hslot hkey rfl h.nodup]
        rfl
      · rw [Function.update_of_ne hf, registered, registered,
          get_set_of_ne hslot (fun heq => hf (Option.some_inj.mp (heq.symm.trans hkey)))
            (Option.some_ne_none f).symm]
  · rw [if_neg (fun hlt => hmem (findFilter_lt_iff.mp hlt))]
    have hnone := (registered_eq_none_iff h).mpr hmem
    refine ⟨h, iff_of_false (show failure ≠ success by decide) ?_, rfl⟩
    rintro (hne | ⟨hne, -⟩)
    · exact hne hnone
    · exact hne rfl

/-- A handler is written into a slot. -/
theorem registered_set {i fp : ℕ} {slot : MessageHandlers} (hslot : slots[i]? = some slot)
    (hkey : ∀ f, slot.topicFilter = some f → f = topicFilter)
    (hother : topicFilter ∉ keys MessageHandlers.topicFilter (slots.take i)) :
    registered (slots.set i { topicFilter := some topicFilter, fp := some fp }) =
      Function.update (registered slots) topicFilter (some fp) := by
  funext f
  by_cases hf : f = topicFilter
  · subst hf
    rw [Function.update_self, registered,
      get_set_self hslot (show MessageHandlers.topicFilter _ = some f from rfl) hother]
    rfl
  · rw [Function.update_of_ne hf, registered, registered, get_set_of_ne hslot]
    · exact fun heq => hf (hkey f heq)
    · exact fun heq => hf (Option.some_inj.mp heq).symm

/-- A handler is added or exchanged. -/
theorem setHandler_some (h : HandlerTable slots) (fp : ℕ) :
    MapUpdate slots topicFilter (some fp) (setHandler slots topicFilter (some fp)).1
      (setHandler slots topicFilter (some fp)).2 := by
  unfold setHandler
  simp only
  by_cases hmem : topicFilter ∈ keys MessageHandlers.topicFilter slots
  · obtain ⟨slot, hslot, hkey⟩ := getElem?_findFilter hmem
    have hlt := findFilter_lt_iff.mpr hmem
    rw [if_pos hlt, if_pos hlt]
    refine ⟨h.set hslot (fun _ => rfl) fun f hf => .inl (hkey.trans hf),
      iff_of_true rfl (.inl fun hnone => (registered_eq_none_iff h).mp hnone hmem), ?_⟩
    rw [if_pos rfl]
    exact registered_set hslot (fun f hf => Option.some_inj.mp (hf.symm.trans hkey))
      (not_mem_keys_take hslot hkey h.nodup)
  · have hnone := (registered_eq_none_iff h).mpr hmem
    rw [if_neg (fun hlt => hmem (findFilter_lt_iff.mp hlt))]
    have hroom : slots.findIdx (fun slot => slot.topicFilter = none) < slots.length ↔
        handlerCount slots < maxMessageHandlers := by
      rw [List.findIdx_lt_length, handlerCount, ← h.length_eq, ← exists_free_iff]
      simp only [decide_eq_true_eq]
    split_ifs with hfree
    · have hslot := List.getElem?_eq_getElem hfree
      have hkey := of_decide_eq_true (List.findIdx_getElem (w := hfree))
      refine ⟨h.set hslot (fun _ => rfl) fun f hf => .inr ?_,
        iff_of_true rfl (.inr ⟨nofun, hroom.mp hfree⟩), ?_⟩
      · rwa [← Option.some_inj.mp hf]
      · rw [if_pos rfl]
        refine registered_set hslot (fun f hf => ?_) fun hin => hmem (keys_take_subset _ hin)
        rw [hkey] at hf
        cases hf
    · refine ⟨h, iff_of_false (show failure ≠ success by decide) ?_, rfl⟩
      rintro (hne | ⟨-, hlt⟩)
      · exact hne hnone
      · exact hfree (hroom.mpr hlt)

/-- Setting a handler updates the map at one filter, or reports a full table. -/
theorem setHandler_update (h : HandlerTable slots) (topicFilter : List UInt8) (fp : Option ℕ) :
    MapUpdate slots topicFilter fp (setHandler slots topicFilter fp).1
      (setHandler slots topicFilter fp).2 := by
  cases fp with
  | none => exact setHandler_none h
  | some fp => exact setHandler_some h fp

/-! ## Runs -/

/-- A clean session starts without filters. -/
theorem keys_handlersLeft (slots : List MessageHandlers) (cleansession : Bool) :
    keys MessageHandlers.topicFilter (handlersLeft cleansession slots) =
      if cleansession then [] else keys MessageHandlers.topicFilter slots := by
  unfold handlersLeft
  split_ifs
  · rw [keys, List.filterMap_map]
    exact List.filterMap_eq_nil_iff.mpr fun _ _ => rfl
  · rfl

/-- A session that is closed loses all of its handlers, or none. -/
theorem HandlerTable.left (h : HandlerTable slots) (cleansession : Bool) :
    HandlerTable (handlersLeft cleansession slots) := by
  refine ⟨?_, ?_, ?_⟩
  · unfold handlersLeft
    split_ifs
    · rw [List.length_map, h.length_eq]
    · exact h.length_eq
  · rw [keys_handlersLeft]
    split_ifs
    · exact List.nodup_nil
    · exact h.nodup
  · unfold handlersLeft
    split_ifs
    · intro slot hslot hfilter
      obtain ⟨_, -, rfl⟩ := List.mem_map.mp hslot
      exact absurd hfilter Bool.false_ne_true
    · exact h.called

/-- One move of a session keeps the table. -/
theorem HandlerTable.move {P : Prop} {a b : Session} {es : List Event}
    (h : HandlerTable a.messageHandlers) (hmove : SessionMove P a es b) :
    HandlerTable b.messageHandlers := by
  cases hmove with
  | call hcall =>
    cases hcall with
    | move hmove =>
      cases hmove with
      | noted _ _ _ =>
        rw [Session.noted]
        split_ifs <;> exact h
      | closed => exact h.left _
      | _ => exact h
    | handler _ topicFilter fp => exact (setHandler_update h topicFilter fp).table
    | _ => exact h
  | _ => exact h

/-- The table of handlers is a map on every state that a run reaches, and `MQTTSetMessageHandler`
updates it as one: a handler can be added if its filter has one already or there is room, and
removed if it is there. -/
theorem setHandler_run {commandTimeoutMs : ℕ} {sendbuf readbuf : List UInt8}
    {c s : Client} {tr es : List Event} {rc : ℤ} (hsize : sendbuf.length < 2 ^ 28)
    (h : Runs IsCall (mqttClientInit commandTimeoutMs sendbuf readbuf) tr c)
    (hcall : (mqttSetMessageHandler topicFilter fp).Exec c rc es s) :
    MapUpdate c.messageHandlers topicFilter fp rc s.messageHandlers := by
  have htable := (runs_path hsize h).invariant
    (I := fun a _ => HandlerTable a.messageHandlers)
    (fun _ _ _ _ hI hmove => hI.move hmove) handlerTable_init
  obtain ⟨w, _, -, rfl, -, rfl⟩ := hcall
  exact setHandler_update htable topicFilter fp

theorem setHandler_second : ∃ (c s : Client) (rc : ℤ), registered c.messageHandlers [97] = some 7 ∧
    MapUpdate c.messageHandlers [98] (some 8) rc s.messageHandlers := by
  have htest : (runSession 3 {} connackReplies [grantedSubscribe] smallClient).any
      (fun x => registered x.2.messageHandlers [97] = some 7) = true := by decide +kernel
  obtain ⟨tr, c, h, hregistered⟩ := exists_sessionRun htest fits_default (by decide)
  have hcall : (mqttSetMessageHandler [98] (some 8)).Exec c _ _ _ :=
    ⟨{}, [], rfl, rfl, rfl, rfl⟩
  exact ⟨c, _, _, of_decide_eq_true hregistered, setHandler_run (by decide) h.runs hcall⟩

end ZohoIotSdk.Paho
