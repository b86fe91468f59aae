import RetailMedia.Backup.Restore
import RetailMedia.Delivery.PlayerAgreement

/-! A bucket that is backed up can be restored, and the check of a backup tells whether it can. -/

namespace RetailMedia

open FilePath (parts)

/-- No call for an object fails. -/
def answered : Nat → ObjectCalls := fun _ ↦ {}

section Answered

variable {overwrite : Bool} {d : BackupDir}

theorem restoreObject_answered (overwrite : Bool) (s : RestoreRun) {o : BackupObject}
    (h : o.Intact d) {content : List UInt8} (hdata : d.data o.key = .file content) :
    (restoreObject overwrite d s o {}).2 = true ∧
      (restoreObject overwrite d s o {}).1.errors = s.errors := by
  have hverify : (if o.sha256 = "" then some true else verifyObjectSha256 d o) = some true := by
    split
    · rfl
    · rename_i hsha
      exact h.resolve_left hsha
  have hcontent : (d.data o.key).content = some content := content_eq_some.2 hdata
  unfold restoreObject
  rw [hverify, hcontent]
  dsimp only
  cases overwrite with
  | true => exact ⟨rfl, rfl⟩
  | false =>
      rw [if_neg Bool.false_ne_true]
      unfold checkObject
      dsimp only
      cases (s.bucket o.key).isSome <;> exact ⟨rfl, rfl⟩

theorem restoreObjects_answered (overwrite : Bool) {s : RestoreRun} {l : List BackupObject}
    (h : ∀ o ∈ l, o.Intact d ∧ ∃ content, d.data o.key = .file content) :
    (restoreObjects overwrite d s l answered).2 = true ∧
      (restoreObjects overwrite d s l answered).1.errors = s.errors := by
  induction l generalizing s with
  | nil => exact ⟨rfl, rfl⟩
  | cons o l ih =>
      obtain ⟨hintact, content, hdata⟩ := h o List.mem_cons_self
      obtain ⟨hgoes, herrors⟩ := restoreObject_answered overwrite s hintact hdata
      unfold restoreObjects
      split
      · rename_i s' hstop
        rw [show answered 0 = {} from rfl] at hstop
        rw [hstop] at hgoes
        cases hgoes
      · rename_i s' hgo
        rw [show answered 0 = {} from rfl] at hgo
        rw [hgo] at herrors
        obtain ⟨hrest, hrest'⟩ := ih (s := s') fun o' ho' ↦ h o' (List.mem_cons_of_mem _ ho')
        exact ⟨hrest, hrest'.trans herrors⟩

theorem verifyFailures_answered {b : Bucket} {l : List BackupObject}
    (h : ∀ o ∈ l, ∃ content, b o.key = some content ∧
      (o.sha256 ≠ "" → sha256File content = o.sha256)) :
    verifyFailures b l answered = some 0 := by
  induction l with
  | nil => rfl
  | cons o l ih =>
      obtain ⟨content, hcontent, hsha⟩ := h o List.mem_cons_self
      have hrest := ih fun o' ho' ↦ h o' (List.mem_cons_of_mem _ ho')
      have hverified : verifyRestored b o (answered 0) = some true := by
        unfold verifyRestored checkObject answered
        dsimp only
        rw [hcontent]
        dsimp only [Option.isSome]
        split
        · rfl
        · rename_i hne
          rw [Option.any_some, hsha hne, decide_eq_true rfl]
      unfold verifyFailures
      rw [hverified]
      dsimp only
      rw [show (fun n ↦ answered (n + 1)) = answered from rfl, hrest]
      rfl

/-- Once all is put, a key that was free to be written has the data of its object. -/
theorem restoreObjects_free {b : Bucket} {calls : Nat → ObjectCalls}
    (hgoes : (restoreObjects overwrite d { bucket := b } d.manifest.objects calls).2 = true)
    (herrors : (restoreObjects overwrite d { bucket := b } d.manifest.objects calls).1.errors = 0)
    {o : BackupObject} (ho : o ∈ d.manifest.objects) (hfree : overwrite = true ∨ b o.key = none) :
    (restoreObjects overwrite d { bucket := b } d.manifest.objects calls).1.bucket o.key =
      (d.data o.key).content := by
  rcases ((restoreObjects_ok hgoes).2 herrors o ho).2 with hdone | ⟨hkeep, hthere, -⟩
  · exact hdone
  · rcases hfree with hover | hnone
    · rw [hkeep] at hover
      cases hover
    · have hkept : (b o.key).isSome = true := hthere
      rw [hnone] at hkept
      cases hkept

/-- Without a fault, the restore of a whole directory into a bucket that it may write over, or that
has none of the objects, succeeds. -/
theorem restore_answered (overwrite : Bool) {confirmation : String} {b : Bucket}
    (hyes : PyText.strip (JsonText.codes confirmation) = JsonText.codes "yes")
    (hloads : d.loads = true)
    (h : ∀ o ∈ d.manifest.objects, o.Intact d ∧ ∃ content, d.data o.key = .file content)
    (hfree : overwrite = true ∨ ∀ o ∈ d.manifest.objects, b o.key = none) :
    (restore confirmation overwrite d .ok answered b).2 = 0 ∧
      ∀ o ∈ d.manifest.objects,
        (restore confirmation overwrite d .ok answered b).1 o.key = (d.data o.key).content := by
  have hrestore : restore confirmation overwrite d .ok answered b =
      restoreManifest overwrite d answered b := by
    unfold restore
    rw [if_neg (not_not_intro hyes), if_neg (by rw [hloads]; decide), if_neg (by decide)]
  obtain ⟨hgoes, herrors⟩ := restoreObjects_answered overwrite
    (s := { bucket := b }) h
  have hdone : ∀ o ∈ d.manifest.objects,
      (restoreObjects overwrite d { bucket := b } d.manifest.objects answered).1.bucket o.key =
        (d.data o.key).content := by
    intro o ho
    exact restoreObjects_free hgoes herrors ho (hfree.imp_right fun hnone ↦ hnone o ho)
  have hverified := verifyFailures_answered fun o ho ↦ by
    obtain ⟨hintact, content, hdata⟩ := h o ho
    have hup := Uploadable.of_intact hintact hdata
    exact ⟨content, (hdone o ho).trans hup.content, hup.digest⟩
  rw [hrestore, restoreManifest_bucket]
  refine ⟨?_, hdone⟩
  unfold restoreManifest
  generalize restoreObjects overwrite d { bucket := b } d.manifest.objects answered = run at *
  obtain ⟨s, goesOn⟩ := run
  obtain rfl : goesOn = true := hgoes
  dsimp only at hverified ⊢
  rw [hverified]
  dsimp only
  rw [if_pos ⟨herrors, rfl⟩]

theorem checkBackup_zero : checkBackup d = 0 ↔
    d.loads = true ∧ ∀ o ∈ d.manifest.objects, o.Intact d := by
  unfold checkBackup
  split
  · rename_i hloads
    exact ⟨nofun, fun h ↦ absurd h.1 (by rw [hloads]; decide)⟩
  · rename_i hloads
    rw [Bool.not_eq_false] at hloads
    split
    · rename_i hall
      refine ⟨fun _ ↦ ⟨hloads, fun o ho ↦ ?_⟩, fun _ ↦ rfl⟩
      have hgood : o.sha256 = "" ∨ verifyObjectSha256 d o = some true :=
        of_decide_eq_true (List.all_eq_true.1 hall o ho)
      exact hgood
    · rename_i hall
      refine ⟨nofun, fun h ↦ absurd ?_ hall⟩
      refine List.all_eq_true.2 fun o ho ↦ ?_
      have hgood : o.sha256 = "" ∨ verifyObjectSha256 d o = some true := h.2 o ho
      exact decide_eq_true hgood

end Answered

/-- The check accepts a backup with digests exactly when some restore of it can succeed; then a
restore that is free to write succeeds unless the service fails, and gives back all its data. -/
theorem check_restorable (d : BackupDir) (hsha : ∀ o ∈ d.manifest.objects, o.sha256 ≠ "") :
    (checkBackup d = 0 ↔ ∃ confirmation overwrite bucketCall calls b,
      (restore confirmation overwrite d bucketCall calls b).2 = 0) ∧
    (checkBackup d = 0 → ∀ b,
      (restore "yes" true d .ok answered b).2 = 0 ∧ ∀ o ∈ d.manifest.objects,
        (restore "yes" true d .ok answered b).1 o.key = (d.data o.key).content) := by
  have hyes : PyText.strip (JsonText.codes "yes") = JsonText.codes "yes" := by decide
  have hrestores : checkBackup d = 0 → ∀ b,
      (restore "yes" true d .ok answered b).2 = 0 ∧ ∀ o ∈ d.manifest.objects,
        (restore "yes" true d .ok answered b).1 o.key = (d.data o.key).content := by
    intro hcheck b
    obtain ⟨hloads, hintact⟩ := checkBackup_zero.1 hcheck
    refine restore_answered true hyes hloads (fun o ho ↦ ⟨hintact o ho, ?_⟩) (.inl rfl)
    have hverified := (hintact o ho).resolve_left (hsha o ho)
    obtain ⟨content, hcontent, -⟩ := Option.map_eq_some_iff.1 hverified
    exact ⟨content, content_eq_some.1 hcontent⟩
  refine ⟨⟨fun hcheck ↦ ⟨_, _, _, _, _, (hrestores hcheck fun _ ↦ none).1⟩, ?_⟩, hrestores⟩
  rintro ⟨confirmation, overwrite, bucketCall, calls, b, hexit⟩
  rcases restore_cases confirmation overwrite d bucketCall calls b with h | ⟨hloads, h⟩
  · rw [h] at hexit
    cases hexit
  · rw [h] at hexit
    obtain ⟨hgoes, herrors, -⟩ := restoreManifest_success hexit
    exact checkBackup_zero.2 ⟨hloads, fun o ho ↦ ((restoreObjects_ok hgoes).2 herrors o ho).1⟩

def missingData : BackupDir where
  manifest := ⟨"creatives", 1, 3, [{ key := "creatives/7/a.png", size := 3, sha256 := "00" }]⟩
  data _ := .absent

/-- The digest is that of the three bytes. -/
def wholeData : BackupDir where
  manifest := ⟨"creatives", 1, 3, [{
    key := "creatives/7/a.png"
    size := 3
    sha256 := "039058c6f2c0cb492c533b0a4d14ef77cc0f78abccced5287d84a1a2011cfb81" }]⟩
  data key := if key = "creatives/7/a.png" then .file [1, 2, 3] else .absent

theorem missingData_not_restorable :
    (checkBackup missingData = 1 ∧ ¬ ∃ confirmation overwrite bucketCall calls b,
      (restore confirmation overwrite missingData bucketCall calls b).2 = 0) ∧
    checkBackup wholeData = 0 ∧ (restore "yes" true wholeData .ok answered fun _ ↦ none).2 = 0 := by
  have hsha : ∀ o ∈ missingData.manifest.objects, o.sha256 ≠ "" := by decide
  have hwhole : ∀ o ∈ wholeData.manifest.objects, o.sha256 ≠ "" := by decide
  have hcheck : checkBackup missingData = 1 := rfl
  have hintact : checkBackup wholeData = 0 := by decide +kernel
  refine ⟨⟨hcheck, fun hrestores ↦ ?_⟩, hintact,
    ((check_restorable wholeData hwhole).2 hintact fun _ ↦ none).1⟩
  have haccepted := (check_restorable missingData hsha).1.2 hrestores
  rw [hcheck] at haccepted
  cases haccepted

/-! ## Successful restores -/

section Success

variable {confirmation : String} {overwrite : Bool} {d : BackupDir} {bucketCall : CallAnswer}
  {calls : Nat → ObjectCalls} {b : Bucket}

/-- Only the keys of the manifest are written. -/
theorem restore_other {key : String} (hkey : ∀ o ∈ d.manifest.objects, o.key ≠ key) :
    (restore confirmation overwrite d bucketCall calls b).1 key = b key := by
  rcases restore_cases confirmation overwrite d bucketCall calls b with heq | ⟨-, heq⟩
  · rw [heq]
  · rw [heq, restoreManifest_bucket]
    rcases restoreObjects_bucket overwrite d { bucket := b } d.manifest.objects calls key with
      hsame | ⟨o, ho, hthere, -⟩
    · exact hsame
    · exact absurd hthere (hkey o ho)

/-- An object has been checked, and put where it was free to be written. -/
theorem restore_object (hexit : (restore confirmation overwrite d bucketCall calls b).2 = 0)
    {o : BackupObject} (ho : o ∈ d.manifest.objects) :
    (o.sha256 ≠ "" →
      ((restore confirmation overwrite d bucketCall calls b).1 o.key).map sha256File =
        some o.sha256) ∧
    (overwrite = true ∨ b o.key = none →
      (restore confirmation overwrite d bucketCall calls b).1 o.key = (d.data o.key).content) := by
  rcases restore_cases confirmation overwrite d bucketCall calls b with heq | ⟨-, heq⟩
  · rw [heq] at hexit
    cases hexit
  · rw [heq] at hexit ⊢
    obtain ⟨hgoes, herrors, hverified⟩ := restoreManifest_success hexit
    constructor
    · intro hsha
      obtain ⟨n, hn⟩ := verifyFailures_zero hverified o ho
      obtain ⟨content, hcontent, hdigest⟩ := verifyRestored_true hn
      rw [hcontent, Option.map_some, hdigest hsha]
    · intro hfree
      rw [restoreManifest_bucket]
      exact restoreObjects_free hgoes herrors ho hfree

end Success

/-! ## What a backup holds -/

section Download

variable {legal : FilePath → Bool}

theorem downloadObjects_cons {t t' : FileTree (List UInt8)} {o : Listed} {l : List Listed}
    {objects : List BackupObject} :
    downloadObjects legal t (o :: l) = some (t', objects) ↔
      ∃ content h rest, o.sent = some content ∧ legal (parts o.key) = true ∧
        downloadObjects legal (t.put (parts o.key) content h) l = some (t', rest) ∧
        objects = { key := o.key, size := o.size, sha256 := sha256File content } :: rest := by
  conv_lhs => unfold downloadObjects
  constructor
  · intro heq
    split at heq
    · cases heq
    · rename_i content hsent
      split at heq
      · cases heq
      · rename_i hlegal
        split at heq
        · cases heq
        · rename_i t₁ hwrite
          obtain ⟨h, rfl⟩ := FileTree.write_eq_some.1 hwrite
          split at heq
          · cases heq
          · rename_i t₂ rest hrest
            obtain ⟨rfl, rfl⟩ := Prod.mk.inj (Option.some.inj heq)
            exact ⟨content, h, rest, hsent, (Bool.not_eq_false _).mp hlegal, hrest, rfl⟩
  · rintro ⟨content, h, rest, hsent, hlegal, hrest, rfl⟩
    rw [hsent]
    dsimp only
    rw [if_neg (by rw [hlegal]; decide), FileTree.write_eq_some.2 ⟨h, rfl⟩]
    dsimp only
    rw [hrest]

/-- The manifest lists the objects with the digests of what was sent. -/
theorem downloadObjects_objects {t t' : FileTree (List UInt8)} {l : List Listed}
    {objects : List BackupObject} (h : downloadObjects legal t l = some (t', objects)) :
    List.Forall₂ (fun (o : Listed) (x : BackupObject) ↦ x.key = o.key ∧ x.size = o.size ∧
      ∃ content, o.sent = some content ∧ x.sha256 = sha256File content) l objects := by
  induction l generalizing t objects with
  | nil =>
      cases h
      exact .nil
  | cons o l ih =>
      obtain ⟨content, hw, rest, hsent, -, hrest, rfl⟩ := downloadObjects_cons.1 h
      exact .cons ⟨rfl, rfl, content, hsent, rfl⟩ (ih hrest)

theorem downloadObjects_other {t t' : FileTree (List UInt8)} {l : List Listed}
    {objects : List BackupObject} (h : downloadObjects legal t l = some (t', objects))
    {p : FilePath} (hp : ∀ o ∈ l, parts o.key ≠ p) : t'.read p = t.read p := by
  induction l generalizing t objects with
  | nil =>
      cases h
      rfl
  | cons o l ih =>
      obtain ⟨content, hw, rest, -, -, hrest, rfl⟩ := downloadObjects_cons.1 h
      rw [ih hrest fun o' ho' ↦ hp o' (List.mem_cons_of_mem _ ho')]
      exact FileTree.read_put_other t content hw (hp o List.mem_cons_self).symm

/-- Where the objects have files of their own, these hold what was sent. -/
theorem downloadObjects_read {t t' : FileTree (List UInt8)} {l : List Listed}
    {objects : List BackupObject} (h : downloadObjects legal t l = some (t', objects))
    (hdistinct : (l.map fun o ↦ parts o.key).Nodup) {o : Listed} (ho : o ∈ l) :
    t'.read (parts o.key) = o.sent := by
  induction l generalizing t objects with
  | nil => cases ho
  | cons o' l ih =>
      obtain ⟨content, hw, rest, hsent, -, hrest, rfl⟩ := downloadObjects_cons.1 h
      obtain ⟨hnew, hdistinct⟩ := List.nodup_cons.1 hdistinct
      rcases List.mem_cons.1 ho with rfl | ho
      · rw [downloadObjects_other hrest, FileTree.read_put_self, hsent]
        rintro o' ho' heq
        exact hnew (List.mem_map.2 ⟨o', ho', heq⟩)
      · exact ih hrest hdistinct ho

/-- Both can have a file: neither lies under the other. -/
def Listed.Apart (o o' : Listed) : Prop := FilePath.Apart (parts o.key) (parts o'.key)

instance : Std.Symm Listed.Apart := ⟨fun _ _ h ↦ FilePath.Apart.symm h⟩

/-- The loop ends exactly when every object is sent, under a name that the file system takes, and
no path leads through another file. -/
theorem downloadObjects_isSome {t : FileTree (List UInt8)} {l : List Listed} :
    (downloadObjects legal t l).isSome ↔
      (∀ o ∈ l, o.sent.isSome ∧ legal (parts o.key) = true ∧ t.Writable (parts o.key)) ∧
        l.Pairwise Listed.Apart := by
  induction l generalizing t with
  | nil => exact ⟨fun _ ↦ ⟨fun o ho ↦ absurd ho List.not_mem_nil, .nil⟩, fun _ ↦ rfl⟩
  | cons o l ih =>
      rw [List.pairwise_cons]
      constructor
      · intro h
        obtain ⟨⟨t', objects⟩, heq⟩ := Option.isSome_iff_exists.1 h
        obtain ⟨content, hw, rest, hsent, hlegal, hrest, -⟩ := downloadObjects_cons.1 heq
        obtain ⟨hall, hpair⟩ := ih.1 (Option.isSome_iff_exists.2 ⟨_, hrest⟩)
        refine ⟨?_, fun o' ho' ↦ (FileTree.writable_put.1 (hall o' ho').2.2).2.symm, hpair⟩
        intro o' ho'
        rcases List.mem_cons.1 ho' with rfl | ho'
        · exact ⟨Option.isSome_iff_exists.2 ⟨_, hsent⟩, hlegal, hw⟩
        · obtain ⟨hsent', hlegal', hw'⟩ := hall o' ho'
          exact ⟨hsent', hlegal', (FileTree.writable_put.1 hw').1⟩
      · rintro ⟨hall, hfirst, hpair⟩
        obtain ⟨hsent, hlegal, hw⟩ := hall o List.mem_cons_self
        obtain ⟨content, hsent⟩ := Option.isSome_iff_exists.1 hsent
        have hrest : (downloadObjects legal (t.put (parts o.key) content hw) l).isSome := by
          refine ih.2 ⟨fun o' ho' ↦ ?_, hpair⟩
          obtain ⟨hsent', hlegal', hw'⟩ := hall o' (List.mem_cons_of_mem _ ho')
          exact ⟨hsent', hlegal', FileTree.writable_put.2 ⟨hw', (hfirst o' ho').symm⟩⟩
        obtain ⟨⟨t', rest⟩, hrest⟩ := Option.isSome_iff_exists.1 hrest
        exact Option.isSome_iff_exists.2
          ⟨_, downloadObjects_cons.2 ⟨content, hw, rest, hsent, hlegal, hrest, rfl⟩⟩

end Download

/-! ## The round trip -/

/-- The names of the service: one slash between the parts, none of which leads to the directory
itself or to the one above. -/
structure ObjectName (key : String) : Prop where
  canonical : FilePath.Canonical key
  inside : ['.', '.'] ∉ parts key
  nonempty : key ≠ ""

/-- The listing of a bucket that nobody writes to, all of whose objects are sent whole. -/
structure Quiesced (src : Bucket) (l : List Listed) : Prop where
  keys : (l.map (·.key)).Nodup
  names : ∀ o ∈ l, ObjectName o.key
  objects : ∀ o ∈ l, src o.key = o.sent ∧ ∃ content, o.sent = some content ∧
    o.size = content.length
  complete : ∀ key, (src key).isSome → ∃ o ∈ l, o.key = key

section RoundTrip

variable {src : Bucket} {l : List Listed}

theorem ObjectName.parts_ne_nil {key : String} (h : ObjectName key) : parts key ≠ [] := by
  intro hparts
  have hcanonical : FilePath.text (parts key) = key.toList := h.canonical
  rw [hparts] at hcanonical
  exact h.nonempty (String.toList_injective hcanonical.symm)

/-- Objects of different names have different paths. -/
theorem Quiesced.paths (h : Quiesced src l) : (l.map fun o ↦ parts o.key).Nodup := by
  have hparts : (l.map fun o ↦ parts o.key) = (l.map (·.key)).map parts := by
    rw [List.map_map]
    rfl
  rw [hparts]
  refine h.keys.map_on fun key hkey key' hkey' heq ↦ ?_
  obtain ⟨o, ho, rfl⟩ := List.mem_map.1 hkey
  obtain ⟨o', ho', rfl⟩ := List.mem_map.1 hkey'
  exact (h.names o ho).canonical.inj (h.names o' ho').canonical heq

theorem Quiesced.backup_isSome (h : Quiesced src l) (legal : FilePath → Bool) (bucket : String) :
    (runBackup legal bucket .empty l).isSome ↔ (∀ o ∈ l, legal (parts o.key) = true) ∧
      ∀ o ∈ l, ∀ o' ∈ l, parts o.key <+: parts o'.key → o.key = o'.key := by
  have hrun : (runBackup legal bucket .empty l).isSome =
      (downloadObjects legal .empty l).isSome := by
    unfold runBackup
    split
    · rename_i hnone
      rw [hnone]
      rfl
    · rename_i hsome
      rw [hsome]
      rfl
  rw [hrun, downloadObjects_isSome]
  constructor
  · rintro ⟨hall, hpair⟩
    refine ⟨fun o ho ↦ (hall o ho).2.1, fun o ho o' ho' hprefix ↦ ?_⟩
    have hapart : Listed.Apart o' o :=
      hpair.forall_of_forall (fun o _ ↦ FilePath.Apart.refl (parts o.key)) ho' ho
    have heq : parts o'.key = parts o.key := by
      by_contra hne
      exact hapart.2 ⟨ hprefix, hne⟩
    exact (h.names o ho).canonical.inj (h.names o' ho').canonical heq.symm
  · rintro ⟨hlegal, hflat⟩
    refine ⟨fun o ho ↦ ⟨?_, hlegal o ho, (h.names o ho).parts_ne_nil, nofun⟩, ?_⟩
    · obtain ⟨-, content, hsent, -⟩ := h.objects o ho
      rw [hsent]
      rfl
    · refine List.pairwise_of_forall_mem_list fun o ho o' ho' ↦ ⟨fun hp ↦ ?_, fun hp ↦ ?_⟩
      · exact hp.2 (by rw [hflat o ho o' ho' hp.1])
      · exact hp.2 (by rw [hflat o' ho' o ho hp.1])

/-- The directory has the objects of the bucket, and no others. -/
structure BackupDir.Holds (d : BackupDir) (src : Bucket) : Prop where
  objects : ∀ x ∈ d.manifest.objects, ∃ content, src x.key = some content ∧
    x.size = content.length ∧ x.sha256 = sha256File content ∧ d.data x.key = .file content
  complete : ∀ key, (src key).isSome → ∃ x ∈ d.manifest.objects, x.key = key

/-- The directory of a backup holds the bucket. -/
theorem Quiesced.holds (h : Quiesced src l) {legal : FilePath → Bool} {bucket : String}
    {t : FileTree (List UInt8)} {m : BucketManifest}
    (hrun : runBackup legal bucket .empty l = some (t, m)) (sizes : FilePath → Nat) :
    (BackupDir.ofTree sizes t m).Holds src := by
  unfold runBackup at hrun
  split at hrun
  · cases hrun
  · rename_i t₁ objects hdownload
    obtain ⟨rfl, rfl⟩ := Prod.mk.inj (Option.some.inj hrun)
    have hobjects := downloadObjects_objects hdownload
    constructor
    · intro x hx
      obtain ⟨o, ho, hkey, hsize, content, hsent, hsha⟩ := Rows.forall₂_mem_right hobjects hx
      obtain ⟨hsrc, content', hsent', hlength⟩ := h.objects o ho
      obtain rfl : content = content' := Option.some.inj (hsent.symm.trans hsent')
      refine ⟨content, ?_, hsize.trans hlength, hsha, ?_⟩
      · rw [hkey, hsrc, hsent]
      · unfold BackupDir.ofTree
        dsimp only
        rw [hkey, downloadObjects_read hdownload h.paths ho, hsent]
    · intro key hkey
      obtain ⟨o, ho, rfl⟩ := h.complete key hkey
      obtain ⟨x, hx, hkey', -⟩ := Rows.forall₂_mem_left hobjects ho
      exact ⟨x, hx, hkey'⟩

namespace BackupDir.Holds

variable {d : BackupDir} (hd : d.Holds src)

include hd

theorem loads : d.loads = true := by
  refine List.all_eq_true.2 fun x hx ↦ decide_eq_true ?_
  obtain ⟨content, -, hsize, -, hdata⟩ := hd.objects x hx
  rw [hdata, hsize]
  rfl

theorem whole : ∀ x ∈ d.manifest.objects, x.Intact d ∧ ∃ content, d.data x.key = .file content := by
  intro x hx
  obtain ⟨content, -, -, hsha, hdata⟩ := hd.objects x hx
  have hverified : verifyObjectSha256 d x = some true := by
    rw [verifyObjectSha256_file hdata, hsha, decide_eq_true rfl]
  exact ⟨.inr hverified, content, hdata⟩

/-- What a restore that reports success has done to a key. -/
theorem restored {confirmation : String} {overwrite : Bool} {bucketCall : CallAnswer}
    {calls : Nat → ObjectCalls} {b : Bucket}
    (hexit : (restore confirmation overwrite d bucketCall calls b).2 = 0) (key : String) :
    (src key = none →
      (restore confirmation overwrite d bucketCall calls b).1 key = b key) ∧
    ∀ content, src key = some content →
      ((restore confirmation overwrite d bucketCall calls b).1 key).map sha256File =
        some (sha256File content) ∧
      (overwrite = true ∨ b key = none →
        (restore confirmation overwrite d bucketCall calls b).1 key = some content) := by
  constructor
  · intro hnone
    apply restore_other
    rintro x hx rfl
    obtain ⟨content, hsrc, -⟩ := hd.objects x hx
    rw [hnone] at hsrc
    cases hsrc
  · intro content hsrc
    obtain ⟨x, hx, rfl⟩ := hd.complete key (by rw [hsrc]; rfl)
    obtain ⟨content', hsrc', -, hsha, hdata⟩ := hd.objects x hx
    obtain rfl : content' = content := Option.some.inj (hsrc'.symm.trans hsrc)
    obtain ⟨hchecked, hput⟩ := restore_object hexit hx
    constructor
    · rw [hchecked (hsha ▸ hexdigest_ne_empty _), hsha]
    · intro hfree
      rw [hput hfree, hdata]
      rfl

/-- Without a fault, an empty bucket gets just the objects. -/
theorem restored_empty : restore "yes" false d .ok answered (fun _ ↦ none) = (src, 0) := by
  have hyes : PyText.strip (JsonText.codes "yes") = JsonText.codes "yes" := by decide
  have hexit := (restore_answered false (b := fun _ ↦ none) hyes hd.loads hd.whole
    (.inr fun _ _ ↦ rfl)).1
  refine Prod.ext (funext fun key ↦ ?_) hexit
  obtain ⟨hnone, hcontent⟩ := hd.restored hexit key
  cases hsrc : src key with
  | none => exact (hnone hsrc).trans hsrc.symm
  | some content => exact ((hcontent content hsrc).2 (.inr rfl)).trans hsrc.symm

end BackupDir.Holds

end RoundTrip

/-- The backup of a bucket that nobody writes to ends exactly when no object lies under another.
From its directory, a restore that reports success has put an object with the digest of the
original under every key (the original itself, where it was free to write) and has touched no
other key; and a restore into an empty bucket that meets no fault gives the bucket back. -/
theorem backup_round_trip (src : Bucket) (l : List Listed) (h : Quiesced src l)
    (legal : FilePath → Bool) (hlegal : ∀ o ∈ l, legal (parts o.key) = true) (bucket : String) :
    ((runBackup legal bucket .empty l).isSome ↔
      ∀ o ∈ l, ∀ o' ∈ l, parts o.key <+: parts o'.key → o.key = o'.key) ∧
    ∀ t m, runBackup legal bucket .empty l = some (t, m) → ∀ sizes,
      (∀ confirmation overwrite bucketCall calls b,
        let r := restore confirmation overwrite (.ofTree sizes t m) bucketCall calls b
        r.2 = 0 → ∀ key,
          (src key = none → r.1 key = b key) ∧
          ∀ content, src key = some content →
            (r.1 key).map sha256File = some (sha256File content) ∧
              (overwrite = true ∨ b key = none → r.1 key = some content)) ∧
      restore "yes" false (.ofTree sizes t m) .ok answered (fun _ ↦ none) = (src, 0) := by
  have hsome := h.backup_isSome legal bucket
  rw [and_iff_right hlegal] at hsome
  refine ⟨hsome, fun t m hrun sizes ↦ ?_⟩
  have hholds := h.holds hrun sizes
  exact ⟨fun _ _ _ _ _ hexit key ↦ hholds.restored hexit key, hholds.restored_empty⟩

def twoCreatives : List Listed := [
  { key := "creatives/7/a.png", size := 3, sent := some [1, 2, 3] },
  { key := "creatives/7/b.png", size := 1, sent := some [4] }]

def twoCreativesBucket : Bucket := fun key ↦ (Rows.get Listed.key key twoCreatives).bind (·.sent)

theorem twoCreatives_quiesced : Quiesced twoCreativesBucket twoCreatives where
  keys := by decide
  names := by
    intro o ho
    rcases List.mem_cons.1 ho with rfl | ho
    · exact ⟨by decide, by decide, by decide⟩
    · rw [List.mem_singleton.1 ho]
      exact ⟨by decide, by decide, by decide⟩
  objects := by
    intro o ho
    rcases List.mem_cons.1 ho with rfl | ho
    · exact ⟨by decide, _, rfl, rfl⟩
    · rw [List.mem_singleton.1 ho]
      exact ⟨by decide, _, rfl, rfl⟩
  complete := by
    intro key hkey
    obtain ⟨o, ho, -⟩ := Option.bind_eq_some_iff.1 (Option.some_get hkey).symm
    exact ⟨o, Rows.get_mem ho, Rows.get_key ho⟩

theorem twoCreatives_restored :
    (runBackup (fun _ ↦ true) "creatives" .empty twoCreatives).isSome ∧
      ∀ t m, runBackup (fun _ ↦ true) "creatives" .empty twoCreatives = some (t, m) → ∀ sizes,
        restore "yes" false (.ofTree sizes t m) .ok answered (fun _ ↦ none) =
          (twoCreativesBucket, 0) := by
  obtain ⟨hsome, hrestored⟩ := backup_round_trip twoCreativesBucket twoCreatives
    twoCreatives_quiesced (fun _ ↦ true) (fun _ _ ↦ rfl) "creatives"
  exact ⟨hsome.2 (by decide), fun t m hrun sizes ↦ (hrestored t m hrun sizes).2⟩

end RetailMedia
