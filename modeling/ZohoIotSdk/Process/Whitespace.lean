import ZohoIotSdk.Process.Topics
import ZohoIotSdk.Text.Trim

/-!
# White space around the user name

`zclient_init` takes the host name and the client id from the user name as it is given, and
stores the user name trimmed. `nameAgrees_iff` says for which user names the two agree.
-/

namespace ZohoIotSdk

open Text

/-! ## `trim` -/

/-- The two loops of `trim`, on a text whose leading spaces are given: the count is the length
of what is left without the spaces at the end. -/
theorem strndup_trim (lead : CString) {rest : CString}
    (hrest : rest.head?.all fun c => !isspace c) :
    strndup ((lead ++ rest).drop lead.length) ((trimEnd (lead ++ rest) : ℤ) - lead.length) =
      rest.rdropWhile isspace := by
  rw [List.drop_left]
  cases rest with
  | nil =>
    -- nothing is left to copy, whatever the count is
    unfold strndup
    split <;> simp
  | cons c cs =>
    have hc : isspace c = false := by simpa using hrest
    have hne : (c :: cs).rdropWhile isspace ≠ [] := by
      rw [Ne, List.rdropWhile_eq_nil_iff]
      intro hall
      have := hall c (List.mem_cons_self ..)
      rw [hc] at this
      simp at this
    have hsplit : (lead ++ c :: cs).rdropWhile isspace = lead ++ (c :: cs).rdropWhile isspace := by
      unfold List.rdropWhile at hne ⊢
      rw [List.reverse_append, List.dropWhile_append, if_neg (by simpa using hne),
        List.reverse_append, List.reverse_reverse]
    have hcount : trimEnd (lead ++ c :: cs) =
        lead.length + ((c :: cs).rdropWhile isspace).length := by
      rw [trimEnd, ← List.length_append, ← hsplit, List.rdropWhile, List.length_reverse]
    have hnonneg : ¬ ((trimEnd (lead ++ c :: cs) : ℤ) - lead.length < 0) := by omega
    have hlength : ((trimEnd (lead ++ c :: cs) : ℤ) - lead.length).toNat =
        ((c :: cs).rdropWhile isspace).length := by omega
    rw [strndup, if_neg hnonneg, hlength]
    exact (List.prefix_iff_eq_take.mp (List.rdropWhile_prefix isspace (c :: cs))).symm

/-- `trim` takes the spaces off both ends. -/
theorem trim_eq_trimmed (s : CString) : trim s = trimmed isspace s := by
  have hrest : (s.dropWhile isspace).head?.all fun c => !isspace c := by
    have hhead := List.head?_dropWhile_not isspace s
    cases hs : (s.dropWhile isspace).head? with
    | none => rfl
    | some c => simpa [hs] using hhead
  have h := strndup_trim (s.takeWhile isspace) hrest
  rw [List.takeWhile_append_dropWhile] at h
  exact h

/-! ## The topics fit -/

/-- The topics are written exactly when each of them fits. -/
theorem writeTopics_fits_iff {clientId : CString}
    {writes : List ((ZohoIOTclient → CString → ZohoIOTclient) × CString)} {c : ZohoIOTclient} :
    (writeTopics clientId writes c).1 = true ↔
      ∀ x ∈ writes, (topicText clientId x.2).length < 64 := by
  induction writes generalizing c with
  | nil => simp [writeTopics]
  | cons x writes ih =>
    rw [writeTopics, List.forall_mem_cons]
    by_cases hlong : 64 ≤ (topicText clientId x.2).length
    · have hnot : ¬ (topicText clientId x.2).length < 64 := by omega
      simp [hlong, hnot]
    · have hshort : (topicText clientId x.2).length < 64 := by omega
      simp only [hlong, if_false, ih, hshort, true_and]

/-- The length of a topic, from that of the client id and the suffix. -/
theorem topicText_length (clientId suffix : CString) :
    (topicText clientId suffix).length = 9 + clientId.length + suffix.length := by
  have hpre : "/devices".toList.length = 8 := by decide
  unfold topicText
  rw [List.length_append, List.length_cons, List.length_append, hpre]
  omega

/-- The longest suffix leaves room for 35 bytes. -/
theorem topics_fit_iff (clientId : CString) :
    (∀ x ∈ topicWrites, (topicText clientId x.2).length < 64) ↔ clientId.length ≤ 35 := by
  have hsuffix : ∀ suffix ∈ topicWrites.map Prod.snd, suffix.length ≤ 19 := by decide
  have hack : "/configsettings/ack".toList.length = 19 := by decide
  constructor
  · intro h
    have hlast := h (fun c t => { c with configAckTopic := t }, "/configsettings/ack".toList)
      (by simp [topicWrites])
    rw [topicText_length, hack] at hlast
    omega
  · intro hle x hx
    have := hsuffix x.2 (List.mem_map_of_mem hx)
    rw [topicText_length]
    omega
/-! ## What `zclient_init` needs -/

/-- The user names that `zclient_init` can use: shorter than 64 bytes, with five segments, of
which the fourth leaves room for the topics. -/
def Usable (userName : CString) : Prop :=
  userName.length < 64 ∧ (segments '/' userName).length = 5 ∧
    ((segments '/' userName)[3]?.getD []).length ≤ 35

/-- Everything else that it needs is there: the password, the certificates and the mutex. -/
def ReadyOtherwise (b : Build) (args : InitArgs) (w : Answer) (s : Sdk) : Prop :=
  credentialsValid b s.globals { args with mqttUserName := some ['/'] } = true ∧
    (initCerts b s.globals args w s.client.certs).1 = true ∧ w.rc = 0

/-- The configuration of a user name that is accepted. -/
def parsedConfig (b : Build) (g : Globals) (args : InitArgs) (userName : CString) : Zconfig where
  hostname := (segments '/' userName)[0]?
  clientId := (segments '/' userName)[3]?
  mqttUserName := some (trim userName)
  authToken := if b.useClientCerts = true ∧ g.tlsClientCerts = true then some []
    else some (trim (args.mqttPassword.getD []))

section Init

variable {b : Build} {g : Globals} {args : InitArgs} {w : Answer} {s : Sdk} {userName : CString}

/-- The check of the credentials asks of the name only that it is not empty. -/
theorem credentialsValid_of_ne_nil (hname : args.mqttUserName = some userName)
    (hne : userName ≠ []) : credentialsValid b g args =
      credentialsValid b g { args with mqttUserName := some ['/'] } := by
  simp [credentialsValid, isStringValid, hname, hne]

/-- The configuration is parsed from a short name of five segments. -/
theorem initConfig_eq (hname : args.mqttUserName = some userName) :
    initConfig b g args =
      if credentialsValid b g args = true ∧ userName.length < 64 ∧
          (segments '/' userName).length = 5 then some (parsedConfig b g args userName)
      else none := by
  unfold initConfig parsedConfig
  rw [hname, Option.getD_some, populateConfigObject_eq]
  cases hvalid : credentialsValid b g args with
  | false => simp
  | true =>
    by_cases hlength : 64 ≤ userName.length
    · have hnot : ¬ userName.length < 64 := by omega
      simp [hlength, hnot]
    · have hshort : userName.length < 64 := by omega
      by_cases hfive : (segments '/' userName).length = 5
      · by_cases hcerts : b.useClientCerts = true ∧ g.tlsClientCerts = true
        · simp [hlength, hshort, hfive, hcerts, zsuccess, zfailure]
        · simp [hlength, hshort, hfive, hcerts, zsuccess, zfailure]
      · simp [hlength, hfive]

/-- Whether the certificates are accepted does not depend on the old ones. -/
theorem initCerts_fst (certs certs' : ZclientCertificates) :
    (initCerts b g args w certs).1 = (initCerts b g args w certs').1 := by
  unfold initCerts
  simp only [apply_ite Prod.fst]

/-- The client is set up when the certificates are accepted and the answer is success. -/
theorem initClient_success_iff (config : Zconfig) :
    (initClient b args w config s).1 = zsuccess ↔
      (initCerts b s.globals args w s.client.certs).1 = true ∧ w.rc = 0 := by
  unfold initClient initFields
  simp only []
  cases (initCerts b s.globals args w s.client.certs).1 with
  | false => simp [zfailure_ne_zsuccess]
  | true =>
    by_cases hrc : w.rc = 0
    · simp [hrc]
    · simp [hrc, zfailure_ne_zsuccess]

/-- The topics fit when the client id has at most 35 characters. -/
theorem writtenClient_parsedConfig (b : Build) (g : Globals) (args : InitArgs) (s : Sdk) :
    (writtenClient (parsedConfig b g args userName) s).1 = true ↔
      ((segments '/' userName)[3]?.getD []).length ≤ 35 :=
  writeTopics_fits_iff.trans (topics_fit_iff _)

/-- `zclient_init` with a user name of five segments and valid credentials. -/
theorem initSdk_of_five (hname : args.mqttUserName = some userName)
    (hvalid : credentialsValid b s.globals args = true) (hlength : userName.length < 64)
    (hfive : (segments '/' userName).length = 5) :
    (initSdk b args w s).1 = zsuccess ↔ ((segments '/' userName)[3]?.getD []).length ≤ 35 ∧
      (initCerts b s.globals args w s.client.certs).1 = true ∧ w.rc = 0 := by
  rw [initSdk_of_config ((initConfig_eq hname).trans (if_pos ⟨hvalid, hlength, hfive⟩)),
    ← writtenClient_parsedConfig b s.globals args s]
  cases (writtenClient (parsedConfig b s.globals args userName) s).1 with
  | false => simp [zfailure_ne_zsuccess]
  | true =>
    rw [if_neg (by simp), initClient_success_iff, initCerts_fst _ s.client.certs]
    simp

/-- `zclient_init` succeeds if the user name is one that it can use, and the rest is there. -/
theorem initSdk_success_iff (hname : args.mqttUserName = some userName) :
    (initSdk b args w s).1 = zsuccess ↔ Usable userName ∧ ReadyOtherwise b args w s := by
  unfold Usable ReadyOtherwise
  by_cases haccepted : credentialsValid b s.globals args = true ∧ userName.length < 64 ∧
      (segments '/' userName).length = 5
  · obtain ⟨hvalid, hlength, hfive⟩ := haccepted
    have hne : userName ≠ [] := by
      rintro rfl
      simp at hfive
    rw [initSdk_of_five hname hvalid hlength hfive, ← credentialsValid_of_ne_nil hname hne]
    simp [hvalid, hlength, hfive]
  · have hconfig : initConfig b s.globals args = none :=
      (initConfig_eq hname).trans (if_neg haccepted)
    rw [initSdk, hconfig]
    apply iff_of_false zfailure_ne_zsuccess
    rintro ⟨⟨hlength, hfive, -⟩, hvalid, -⟩
    have hne : userName ≠ [] := by
      rintro rfl
      simp at hfive
    rw [← credentialsValid_of_ne_nil hname hne] at hvalid
    exact haccepted ⟨hvalid, hlength, hfive⟩

/-- What a `zclient_init` that succeeds stores. -/
theorem initSdk_stored (hname : args.mqttUserName = some userName)
    (h : (initSdk b args w s).1 = zsuccess) :
    (initSdk b args w s).2.client.config.mqttUserName = some (trim userName) ∧
    (initSdk b args w s).2.client.config.hostname = (segments '/' userName)[0]? ∧
    (initSdk b args w s).2.client.config.clientId = (segments '/' userName)[3]? := by
  obtain ⟨config, hconfig, -, -, heq⟩ := initSdk_success h
  rw [initConfig_eq hname] at hconfig
  split at hconfig
  · obtain rfl := Option.some.inj hconfig
    rw [heq]
    unfold initClient initFields
    simp only []
    split
    · exact ⟨rfl, rfl, rfl⟩
    · split <;> exact ⟨rfl, rfl, rfl⟩
  · simp at hconfig

end Init

/-! ## The segments of a text with spaces around it -/

/-- There are spaces in front. -/
def SpaceBefore (userName : CString) : Prop := leading isspace userName ≠ []

/-- There are spaces at the end, and what stands before them ends with a slash. -/
def SpaceAfterSlash (userName : CString) : Prop :=
  trailing isspace userName ≠ [] ∧ (trim userName).getLast? = some '/'

theorem slash_notMem_leading (s : CString) : '/' ∉ leading isspace s := by
  intro h
  exact absurd (of_mem_leading h) (by decide)

theorem slash_notMem_trailing (s : CString) : '/' ∉ trailing isspace s := by
  intro h
  exact absurd (of_mem_trailing h) (by decide)

section Segments

variable {t lead trail : CString}

/-- Spaces after anything but a slash belong to the last segment. -/
theorem segments_trailing (htrail : '/' ∉ trail) (hne : t ≠ []) (hlast : t.getLast? ≠ some '/') :
    (segments '/' (t ++ trail)).length = (segments '/' t).length ∧
      ∀ i, i + 1 < (segments '/' t).length →
        (segments '/' (t ++ trail))[i]? = (segments '/' t)[i]? := by
  obtain ⟨c, hc⟩ := Option.ne_none_iff_exists'.mp (mt List.getLast?_eq_none_iff.mp hne)
  have hslash : c ≠ '/' := by
    rintro rfl
    exact hlast hc
  obtain ⟨init, last, ht, htt⟩ := segments_append_of_getLast_ne htrail hc hslash
  rw [ht, htt]
  constructor
  · simp
  · intro i hi
    have hlt : i < init.length := by
      rw [List.length_append, List.length_singleton] at hi
      omega
    rw [List.getElem?_append_left hlt, List.getElem?_append_left hlt]

/-- The number of segments, with spaces at the end. -/
theorem length_segments_trailing (htrail : '/' ∉ trail) (hne : t ≠ []) :
    (segments '/' (t ++ trail)).length =
      (segments '/' t).length + if trail ≠ [] ∧ t.getLast? = some '/' then 1 else 0 := by
  by_cases hlast : t.getLast? = some '/'
  · by_cases htrail' : trail = []
    · simp [htrail']
    · rw [segments_append_of_getLast_sep htrail htrail' hlast, if_pos ⟨htrail', hlast⟩]
      simp
  · rw [(segments_trailing htrail hne hlast).1, if_neg fun h => hlast h.2]
    rfl

/-- The number of segments, with spaces in front. -/
theorem length_segments_leading (hlead : '/' ∉ lead) (hne : t ≠ []) :
    (segments '/' (lead ++ t)).length =
      (segments '/' t).length + if lead ≠ [] ∧ t.head? = some '/' then 1 else 0 := by
  by_cases hhead : t.head? = some '/'
  · by_cases hlead' : lead = []
    · simp [hlead']
    · rw [segments_append_of_head_sep hlead hlead' hhead, if_pos ⟨hlead', hhead⟩]
      simp
  · obtain ⟨c, hc⟩ := Option.ne_none_iff_exists'.mp (mt List.head?_eq_none_iff.mp hne)
    have hslash : c ≠ '/' := by
      rintro rfl
      exact hhead hc
    obtain ⟨first, rest, ht, -, htt⟩ := segments_append_of_head_ne hlead hc hslash
    rw [ht, htt, if_neg fun h => hhead h.2]
    rfl

/-- Spaces in front are the start of the first segment. -/
theorem segments_leading_ne (trail : CString) {c : Char} (hlead : '/' ∉ lead) (hne : lead ≠ [])
    (hspace : ∀ c ∈ lead, isspace c = true) (hhead : t.head? = some c) (hslash : c ≠ '/')
    (hc : isspace c = false) :
    (segments '/' (lead ++ (t ++ trail)))[0]? ≠ (segments '/' t)[0]? := by
  have hhead' : (t ++ trail).head? = some c := by
    rw [List.head?_append, hhead]
    rfl
  obtain ⟨first, rest, ht, hfirst, -⟩ := segments_append_of_head_ne hlead hhead hslash
  obtain ⟨first', rest', -, -, htt⟩ := segments_append_of_head_ne hlead hhead' hslash
  rw [ht, htt, List.getElem?_cons_zero, List.getElem?_cons_zero]
  intro heq
  obtain ⟨space, lead', rfl⟩ := List.exists_cons_of_ne_nil hne
  rw [← Option.some.inj heq, List.cons_append, List.head?_cons] at hfirst
  have := hspace space (List.mem_cons_self ..)
  rw [Option.some.inj hfirst, hc] at this
  simp at this

end Segments

/-- Without spaces in front, and after a final slash, the user name and its trimmed form have
the same segments, but for spaces at the end of the last one. -/
theorem segments_trim {userName : CString} (hbefore : ¬ SpaceBefore userName)
    (hafter : ¬ SpaceAfterSlash userName) :
    (segments '/' userName).length = (segments '/' (trim userName)).length ∧
      ∀ i, i + 1 < (segments '/' (trim userName)).length →
        (segments '/' userName)[i]? = (segments '/' (trim userName))[i]? := by
  have hsplit := leading_trimmed_trailing isspace userName
  rw [not_not.mp hbefore, List.nil_append, ← trim_eq_trimmed] at hsplit
  unfold SpaceAfterSlash at hafter
  by_cases htrail : trailing isspace userName = []
  · rw [htrail, List.append_nil] at hsplit
    rw [hsplit]
    exact ⟨rfl, fun _ _ => rfl⟩
  · have hne : trim userName ≠ [] := by
      rw [trim_eq_trimmed]
      exact mt trailing_of_trimmed_nil htrail
    have h := segments_trailing (slash_notMem_trailing userName) hne fun hlast =>
      hafter ⟨htrail, hlast⟩
    rwa [hsplit] at h

/-- The number of segments of a user name, by that of its trimmed form. -/
theorem length_segments_trim {userName : CString} (hne : trim userName ≠ []) :
    (segments '/' userName).length = (segments '/' (trim userName)).length +
      (if trailing isspace userName ≠ [] ∧ (trim userName).getLast? = some '/' then 1 else 0) +
      if leading isspace userName ≠ [] ∧ (trim userName).head? = some '/' then 1 else 0 := by
  have hsplit := leading_trimmed_trailing isspace userName
  rw [← trim_eq_trimmed] at hsplit
  have hne' : trim userName ++ trailing isspace userName ≠ [] := by simp [hne]
  have hhead : (trim userName ++ trailing isspace userName).head? = (trim userName).head? :=
    List.head?_append_of_ne_nil _ hne
  rw [← length_segments_trailing (slash_notMem_trailing userName) hne, ← hhead,
    ← length_segments_leading (slash_notMem_leading userName) hne', hsplit]

/-! ## The two forms of a user name -/

/-- What is stored agrees with the stored user name, and spaces around the user name make no
difference: for every build, every choice of the other arguments, every answer of the
environment and every client. -/
structure NameAgrees (userName : CString) : Prop where
  stored : ∀ (b : Build) (args : InitArgs) (w : Answer) (s : Sdk),
    args.mqttUserName = some userName → (initSdk b args w s).1 = zsuccess →
    ∃ storedName, (initSdk b args w s).2.client.config.mqttUserName = some storedName ∧
      storedName = trim userName ∧
      (initSdk b args w s).2.client.config.hostname = (segments '/' storedName)[0]? ∧
      (initSdk b args w s).2.client.config.clientId = (segments '/' storedName)[3]?
  trimmed : userName.length < 64 →
    ∀ (b : Build) (args args' : InitArgs) (w : Answer) (s : Sdk),
    args.mqttUserName = some userName →
    args' = { args with mqttUserName := some (trim userName) } →
    ((initSdk b args w s).1 = zsuccess ↔ (initSdk b args' w s).1 = zsuccess) ∧
    ((initSdk b args w s).1 = zsuccess →
      (initSdk b args w s).2.client.config.hostname.map trim =
        (initSdk b args' w s).2.client.config.hostname.map trim ∧
      (initSdk b args w s).2.client.config.clientId.map trim =
        (initSdk b args' w s).2.client.config.clientId.map trim)

/-- A name that is usable in neither form agrees. -/
theorem nameAgrees_of_unusable {userName : CString} (h : ¬ Usable userName)
    (htrim : userName.length < 64 → ¬ Usable (trim userName)) : NameAgrees userName where
  stored b args w s hname hsuccess :=
    absurd ((initSdk_success_iff hname).mp hsuccess).1 h
  trimmed hlength b args args' w s hname hargs := by
    subst hargs
    rw [initSdk_success_iff hname, initSdk_success_iff rfl]
    refine ⟨iff_of_false (fun hready => h hready.1) fun hready => htrim hlength hready.1, ?_⟩
    exact fun hready => absurd hready.1 h

/-- Trimming makes no text longer. -/
theorem length_trim_le (s : CString) : (trim s).length ≤ s.length := by
  have hsplit := congrArg List.length (leading_trimmed_trailing isspace s)
  rw [List.length_append, List.length_append, ← trim_eq_trimmed] at hsplit
  omega

/-- Spaces that are in no segment of their own do not matter to whether a user name is used. -/
theorem usable_trim_iff {userName : CString} (hbefore : ¬ SpaceBefore userName)
    (hafter : ¬ SpaceAfterSlash userName) (hlength : userName.length < 64) :
    Usable userName ↔ Usable (trim userName) := by
  obtain ⟨hcount, hsame⟩ := segments_trim hbefore hafter
  have htrim : (trim userName).length < 64 := Nat.lt_of_le_of_lt (length_trim_le userName) hlength
  unfold Usable
  rw [hcount]
  by_cases hfive : (segments '/' (trim userName)).length = 5
  · rw [hsame 3 (by omega)]
    simp [hlength, htrim]
  · simp [hfive]

/-- Without spaces in front, or behind a last slash, the name agrees. -/
theorem nameAgrees_of_no_space {userName : CString} (hbefore : ¬ SpaceBefore userName)
    (hafter : ¬ SpaceAfterSlash userName) : NameAgrees userName := by
  obtain ⟨hcount, hsame⟩ := segments_trim hbefore hafter
  have hfields : Usable userName →
      (segments '/' userName)[0]? = (segments '/' (trim userName))[0]? ∧
      (segments '/' userName)[3]? = (segments '/' (trim userName))[3]? := by
    rintro ⟨-, hfive, -⟩
    exact ⟨hsame 0 (by omega), hsame 3 (by omega)⟩
  constructor
  · intro b args w s hname hsuccess
    obtain ⟨hstored, hhost, hid⟩ := initSdk_stored hname hsuccess
    obtain ⟨hfirst, hfourth⟩ := hfields ((initSdk_success_iff hname).mp hsuccess).1
    exact ⟨_, hstored, rfl, hhost.trans hfirst, hid.trans hfourth⟩
  · rintro hlength b args _ w s hname rfl
    have hiff := initSdk_success_iff (b := b) (w := w) (s := s) hname
    have hiff' := initSdk_success_iff (b := b) (w := w) (s := s)
      (rfl : ({ args with mqttUserName := some (trim userName) } : InitArgs).mqttUserName = _)
    have hboth : (initSdk b args w s).1 = zsuccess ↔
        (initSdk b { args with mqttUserName := some (trim userName) } w s).1 = zsuccess := by
      rw [hiff, hiff', usable_trim_iff hbefore hafter hlength]
      rfl
    refine ⟨hboth, fun hsuccess => ?_⟩
    obtain ⟨-, hhost, hid⟩ := initSdk_stored hname hsuccess
    obtain ⟨-, hhost', hid'⟩ := initSdk_stored rfl (hboth.mp hsuccess)
    obtain ⟨hfirst, hfourth⟩ := hfields (hiff.mp hsuccess).1
    rw [hhost, hid, hhost', hid', hfirst, hfourth]
    exact ⟨rfl, rfl⟩

/-- The arguments of a device with that user name, for which everything else is ready. -/
def namedArgs (userName : CString) : InitArgs :=
  { sampleArgs with mqttUserName := some userName }

theorem readyOtherwise_namedArgs (userName : CString) :
    ReadyOtherwise plainBuild (namedArgs userName) {} {} := ⟨rfl, rfl, rfl⟩

/-- If spaces make no difference, both forms can be used, or none. -/
theorem NameAgrees.usable_iff {userName : CString} (h : NameAgrees userName)
    (hlength : userName.length < 64) : Usable userName ↔ Usable (trim userName) := by
  have hboth := (h.trimmed hlength plainBuild (namedArgs userName) (namedArgs (trim userName))
    {} {} rfl rfl).1
  have hname : ∀ t, (namedArgs t).mqttUserName = some t := fun _ => rfl
  rw [initSdk_success_iff (hname userName), initSdk_success_iff (hname (trim userName))] at hboth
  simpa only [readyOtherwise_namedArgs, and_true] using hboth

/-- Where both forms can be used, spaces that matter show in the host name. -/
theorem NameAgrees.no_space {userName : CString} (h : NameAgrees userName)
    (husable : Usable userName) (htrim : Usable (trim userName)) :
    ¬ SpaceBefore userName ∧ ¬ SpaceAfterSlash userName := by
  have hne : trim userName ≠ [] := by
    intro hnil
    have hfive := htrim.2.1
    rw [hnil, segments_nil] at hfive
    simp at hfive
  -- both forms have five segments, so the spaces are not segments
  have hcount := length_segments_trim hne
  rw [husable.2.1, htrim.2.1] at hcount
  have hafter : ¬ (trailing isspace userName ≠ [] ∧ (trim userName).getLast? = some '/') := by
    intro hafter
    rw [if_pos hafter] at hcount
    omega
  refine ⟨fun hbefore => ?_, hafter⟩
  have hhead : (trim userName).head? ≠ some '/' := by
    intro hslash
    rw [if_neg hafter, if_pos ⟨hbefore, hslash⟩] at hcount
    omega
  obtain ⟨c, hc⟩ := Option.ne_none_iff_exists'.mp (mt List.head?_eq_none_iff.mp hne)
  have hslash : c ≠ '/' := by
    rintro rfl
    exact hhead hc
  have hspace : isspace c = false := by
    rw [trim_eq_trimmed] at hc
    exact head?_trimmed hc
  -- so they are part of the host name, which is compared with the one of the stored name
  have hsuccess : (initSdk plainBuild (namedArgs userName) {} {}).1 = zsuccess :=
    (initSdk_success_iff rfl).mpr ⟨husable, readyOtherwise_namedArgs userName⟩
  obtain ⟨_, -, rfl, hhost, -⟩ := h.stored plainBuild _ {} {} rfl hsuccess
  have hname : (namedArgs userName).mqttUserName = some userName := rfl
  rw [(initSdk_stored hname hsuccess).2.1] at hhost
  have hdiffer := segments_leading_ne (trailing isspace userName)
    (slash_notMem_leading userName) hbefore (fun _ => of_mem_leading) hc hslash hspace
  rw [trim_eq_trimmed, leading_trimmed_trailing, ← trim_eq_trimmed] at hdiffer
  exact hdiffer hhost

/-- For every user name: what `zclient_init` stores agrees with the stored user name, and
spaces around the user name make no difference, if and only if the user name has 64 bytes or
more, or it has no spaces in front and none after a final slash, or neither it nor its trimmed
form is one that `zclient_init` can use. -/
theorem nameAgrees_iff (userName : CString) :
    NameAgrees userName ↔ 64 ≤ userName.length ∨
      (¬ SpaceBefore userName ∧ ¬ SpaceAfterSlash userName) ∨
      (¬ Usable userName ∧ ¬ Usable (trim userName)) := by
  constructor
  · intro h
    by_cases hlength : 64 ≤ userName.length
    · exact .inl hlength
    · have hiff := h.usable_iff (by omega)
      by_cases husable : Usable userName
      · exact .inr (.inl (h.no_space husable (hiff.mp husable)))
      · exact .inr (.inr ⟨husable, mt hiff.mpr husable⟩)
  · rintro (hlength | ⟨hbefore, hafter⟩ | ⟨husable, htrim⟩)
    · refine nameAgrees_of_unusable (fun husable => ?_) fun hshort => by omega
      have := husable.1
      omega
    · exact nameAgrees_of_no_space hbefore hafter
    · exact nameAgrees_of_unusable husable fun _ => htrim

/-- A space after the last segment makes no difference. -/
theorem nameAgrees_space_after :
    trim "host/v1/devices/7/connect ".toList = "host/v1/devices/7/connect".toList ∧
    NameAgrees "host/v1/devices/7/connect ".toList := by
  refine ⟨by decide, (nameAgrees_iff _).mpr (.inr (.inl ⟨?_, ?_⟩))⟩
  · exact not_not.mpr (by decide)
  · exact fun h => absurd h.2 (by decide)

/-- A space in front is part of the host name to connect to, and not of the stored user
name. -/
theorem space_in_hostname : ∃ s' : Sdk,
    (zclientInit plainBuild (namedArgs " host/v1/devices/7/connect".toList)).Exec {} zsuccess
      [.init zsuccess] s' ∧
    s'.client.config.mqttUserName = some "host/v1/devices/7/connect".toList ∧
    s'.client.config.hostname = some " host".toList ∧
    ¬ NameAgrees " host/v1/devices/7/connect".toList := by
  have hsuccess : (initSdk plainBuild (namedArgs " host/v1/devices/7/connect".toList) {} {}).1 =
      zsuccess := by decide +kernel
  have hstored : (initSdk plainBuild (namedArgs " host/v1/devices/7/connect".toList)
      {} {}).2.client.config.mqttUserName = some "host/v1/devices/7/connect".toList := by
    decide +kernel
  have hhost : (initSdk plainBuild (namedArgs " host/v1/devices/7/connect".toList)
      {} {}).2.client.config.hostname = some " host".toList := by decide +kernel
  refine ⟨_, ⟨{}, [], by rw [← hsuccess]; rfl, hsuccess.symm, rfl, rfl⟩, hstored, hhost,
    fun h => ?_⟩
  obtain ⟨storedName, hname, -, hhost', -⟩ := h.stored plainBuild _ {} {} rfl hsuccess
  obtain rfl : storedName = "host/v1/devices/7/connect".toList :=
    Option.some.inj (hname.symm.trans hstored)
  rw [hhost, ← strtok_eq_segments] at hhost'
  exact absurd hhost' (by decide)

end ZohoIotSdk
