import RetailMedia.Backup.Objects

/-! What a restore leaves in the bucket, from any directory and whatever the service answers. -/

namespace RetailMedia

open JsonText (codes)

section Restore

variable {overwrite : Bool} {d : BackupDir}

/-- The content that the script may store for an object. -/
structure Uploadable (d : BackupDir) (o : BackupObject) (content : List UInt8) : Prop where
  data : d.data o.key = .file content
  digest : o.sha256 ≠ "" → sha256File content = o.sha256

/-- The digest of the data is the one of the manifest, if that has one. -/
def BackupObject.Intact (d : BackupDir) (o : BackupObject) : Prop :=
  o.sha256 = "" ∨ verifyObjectSha256 d o = some true

theorem content_eq_some {e : LocalEntry} {content : List UInt8} :
    e.content = some content ↔ e = .file content := by
  cases e <;> simp [LocalEntry.content]

theorem verifyObjectSha256_file {o : BackupObject} {content : List UInt8}
    (h : d.data o.key = .file content) :
    verifyObjectSha256 d o = some (decide (sha256File content = o.sha256)) := by
  unfold verifyObjectSha256
  rw [h]
  rfl

theorem Uploadable.of_intact {o : BackupObject} {content : List UInt8} (h : o.Intact d)
    (hdata : d.data o.key = .file content) : Uploadable d o content where
  data := hdata
  digest := by
    intro hsha
    rcases h with h | h
    · exact absurd h hsha
    · rw [verifyObjectSha256_file hdata, Option.some.injEq] at h
      exact of_decide_eq_true h

/-! ## One object -/

theorem uploadObject_bucket (s : RestoreRun) (o : BackupObject) (content : List UInt8)
    (calls : ObjectCalls) :
    (uploadObject s o content calls).1.bucket = s.bucket ∨
      (uploadObject s o content calls).1.bucket =
        Function.update s.bucket o.key (some content) := by
  unfold uploadObject
  split
  · exact .inr rfl
  · dsimp only
    split
    · exact .inr rfl
    · exact .inl rfl
  · dsimp only
    split
    · exact .inr rfl
    · exact .inl rfl

theorem uploadObject_ok {s : RestoreRun} {o : BackupObject} {content : List UInt8}
    {calls : ObjectCalls} (h : (uploadObject s o content calls).2 = true) :
    s.errors ≤ (uploadObject s o content calls).1.errors ∧
      ((uploadObject s o content calls).1.errors = s.errors →
        (uploadObject s o content calls).1.bucket =
          Function.update s.bucket o.key (some content)) := by
  unfold uploadObject at h ⊢
  split
  · exact ⟨le_refl _, fun _ ↦ rfl⟩
  · exact ⟨Nat.le_succ _, fun heq ↦ absurd heq (Nat.succ_ne_self _)⟩
  · rename_i hput
    rw [hput] at h
    cases h

/-- The step either leaves the bucket or uploads the data; the data is intact by then, and unless
it is to be overwritten the object was not there or was said not to be. -/
theorem restoreObject_bucket (overwrite : Bool) (d : BackupDir) (s : RestoreRun)
    (o : BackupObject) (calls : ObjectCalls) :
    (restoreObject overwrite d s o calls).1.bucket = s.bucket ∨
      ∃ content, Uploadable d o content ∧
        (overwrite = true ∨ checkObject s.bucket o.key calls.stat = some false) ∧
        (restoreObject overwrite d s o calls).1.bucket =
          Function.update s.bucket o.key (some content) := by
  unfold restoreObject
  split
  · exact .inl rfl
  · exact .inl rfl
  · rename_i hintact
    split
    · exact .inl rfl
    · exact .inl rfl
    · rename_i hcheck
      split
      · exact .inl rfl
      · rename_i content hcontent
        have hup : Uploadable d o content := by
          refine Uploadable.of_intact ?_ (content_eq_some.1 hcontent)
          split at hintact
          · rename_i hsha
            exact .inl hsha
          · exact .inr hintact
        have hwrite : overwrite = true ∨ checkObject s.bucket o.key calls.stat = some false := by
          split at hcheck
          · rename_i h
            exact .inl h
          · exact .inr hcheck
        rcases uploadObject_bucket s o content calls with h | h
        · exact .inl h
        · exact .inr ⟨content, hup, hwrite, h⟩

/-- A step after which the script goes on without a new error has found the data intact, and the
object is there: as the data, or skipped. -/
theorem restoreObject_ok {s : RestoreRun} {o : BackupObject} {calls : ObjectCalls}
    (h : (restoreObject overwrite d s o calls).2 = true) :
    s.errors ≤ (restoreObject overwrite d s o calls).1.errors ∧
      ((restoreObject overwrite d s o calls).1.errors = s.errors →
        o.Intact d ∧
          ((restoreObject overwrite d s o calls).1.bucket o.key = (d.data o.key).content ∨
            overwrite = false ∧ (s.bucket o.key).isSome ∧
              (restoreObject overwrite d s o calls).1.bucket = s.bucket)) := by
  unfold restoreObject at h ⊢
  split
  · rename_i hnone
    rw [hnone] at h
    cases h
  · exact ⟨Nat.le_succ _, fun heq ↦ absurd heq (Nat.succ_ne_self _)⟩
  · rename_i hintact
    rw [hintact] at h
    have hgood : o.Intact d := by
      split at hintact
      · rename_i hsha
        exact .inl hsha
      · exact .inr hintact
    dsimp only at h ⊢
    split
    · rename_i hnone
      rw [hnone] at h
      cases h
    · rename_i hthere
      refine ⟨le_refl _, fun _ ↦ ⟨hgood, .inr ?_⟩⟩
      split at hthere
      · cases hthere
      · rename_i hkeep
        refine ⟨Bool.eq_false_iff.2 hkeep, ?_, rfl⟩
        unfold checkObject at hthere
        split at hthere
        · exact Option.some.inj hthere
        · cases hthere
        · cases hthere
    · rename_i hcheck
      rw [hcheck] at h
      dsimp only at h
      split
      · rename_i hnone
        rw [hnone] at h
        cases h
      · rename_i content hcontent
        rw [hcontent] at h
        obtain ⟨hle, hstored⟩ := uploadObject_ok h
        refine ⟨hle, fun heq ↦ ⟨hgood, .inl ?_⟩⟩
        rw [hcontent]
        rw [hstored heq, Function.update_self]

theorem Uploadable.content {o : BackupObject} {content : List UInt8}
    (h : Uploadable d o content) : (d.data o.key).content = some content :=
  content_eq_some.2 h.data

theorem restoreObject_key (overwrite : Bool) (d : BackupDir) (s : RestoreRun) (o : BackupObject)
    (calls : ObjectCalls) (key : String) :
    (restoreObject overwrite d s o calls).1.bucket key = s.bucket key ∨
      o.key = key ∧ ∃ content, Uploadable d o content ∧
        (restoreObject overwrite d s o calls).1.bucket key = some content := by
  rcases restoreObject_bucket overwrite d s o calls with
    h | ⟨content, hup, -, h⟩
  · exact .inl (congrFun h key)
  · by_cases hkey : o.key = key
    · refine .inr ⟨hkey, content, hup, ?_⟩
      rw [h, ← hkey, Function.update_self]
    · refine .inl ?_
      rw [h, Function.update_of_ne (Ne.symm hkey)]

/-! ## The loop -/

/-- Every key is as before or holds the data of one of its objects. -/
theorem restoreObjects_bucket (overwrite : Bool) (d : BackupDir) (s : RestoreRun)
    (l : List BackupObject) (calls : Nat → ObjectCalls) (key : String) :
    (restoreObjects overwrite d s l calls).1.bucket key = s.bucket key ∨
      ∃ o ∈ l, o.key = key ∧ ∃ content, Uploadable d o content ∧
        (restoreObjects overwrite d s l calls).1.bucket key = some content := by
  induction l generalizing s calls with
  | nil => exact .inl rfl
  | cons o l ih =>
      have hstep := restoreObject_key overwrite d s o (calls 0) key
      unfold restoreObjects
      split
      · rename_i s' hstop
        rw [hstop] at hstep
        rcases hstep with h | ⟨hkey, hup⟩
        · exact .inl h
        · exact .inr ⟨o, List.mem_cons_self, hkey, hup⟩
      · rename_i s' hgo
        rw [hgo] at hstep
        rcases ih s' (fun n ↦ calls (n + 1)) with h | ⟨o', ho', hrest⟩
        · rcases hstep with h' | ⟨hkey, content, hup, h'⟩
          · exact .inl (h.trans h')
          · exact .inr ⟨o, List.mem_cons_self, hkey, content, hup, h.trans h'⟩
        · exact .inr ⟨o', List.mem_cons_of_mem _ ho', hrest⟩

/-- An object that exists stays as it is, if it is not to be overwritten and the service does not
hide it. -/
theorem restoreObjects_keeps {s : RestoreRun} {l : List BackupObject} {calls : Nat → ObjectCalls}
    {key : String}
    (hstat : ∀ n o, l[n]? = some o → o.key = key → (calls n).stat ≠ .s3Error)
    (hkey : (s.bucket key).isSome) :
    (restoreObjects false d s l calls).1.bucket key = s.bucket key := by
  induction l generalizing s calls with
  | nil => rfl
  | cons o l ih =>
      have hstep : (restoreObject false d s o (calls 0)).1.bucket key = s.bucket key := by
        rcases restoreObject_bucket false d s o (calls 0) with
          h | ⟨content, -, hcheck, h⟩
        · exact congrFun h key
        · rw [h]
          apply Function.update_of_ne
          intro hsame
          rcases hcheck with hcheck | hcheck
          · cases hcheck
          · unfold checkObject at hcheck
            split at hcheck
            · rw [hsame, Option.some.inj hcheck] at hkey
              cases hkey
            · rename_i hanswer
              exact hstat 0 o rfl hsame.symm hanswer
            · cases hcheck
      unfold restoreObjects
      split
      · rename_i s' hstop
        rw [hstop] at hstep
        exact hstep
      · rename_i s' hgo
        rw [hgo] at hstep
        have hkey' : (s'.bucket key).isSome := by
          rw [hstep]
          exact hkey
        exact (ih (fun n ↦ hstat (n + 1)) hkey').trans hstep

theorem restoreObjects_ok {s : RestoreRun} {l : List BackupObject} {calls : Nat → ObjectCalls}
    (h : (restoreObjects overwrite d s l calls).2 = true) :
    s.errors ≤ (restoreObjects overwrite d s l calls).1.errors ∧
      ((restoreObjects overwrite d s l calls).1.errors = s.errors →
        ∀ o ∈ l, o.Intact d ∧
          ((restoreObjects overwrite d s l calls).1.bucket o.key = (d.data o.key).content ∨
            overwrite = false ∧ (s.bucket o.key).isSome ∧
              (restoreObjects overwrite d s l calls).1.bucket o.key = s.bucket o.key)) := by
  induction l generalizing s calls with
  | nil => exact ⟨le_refl _, fun _ o ho ↦ absurd ho List.not_mem_nil⟩
  | cons o l ih =>
      unfold restoreObjects at h ⊢
      split at h
      · cases h
      · rename_i s' hgo
        have hstep := restoreObject_ok (congrArg Prod.snd hgo)
        have hkey := restoreObject_key overwrite d s o (calls 0)
        rw [hgo] at hstep hkey
        obtain ⟨hle, hhead⟩ := hstep
        obtain ⟨hle', htail⟩ := ih h
        refine ⟨hle.trans hle', fun heq ↦ ?_⟩
        have hfirst : s'.errors = s.errors := le_antisymm (hle'.trans_eq heq) hle
        have hrest := htail (heq.trans hfirst.symm)
        intro o' ho'
        rcases List.mem_cons.1 ho' with rfl | ho'
        · obtain ⟨hintact, hdone⟩ := hhead hfirst
          refine ⟨hintact, ?_⟩
          rcases restoreObjects_bucket overwrite d s' l
            (fun n ↦ calls (n + 1)) o'.key with hsame | ⟨o'', -, heq', content, hup, hlast⟩
          · rcases hdone with hdone | ⟨hkeep, hthere, hdone⟩
            · exact .inl (hsame.trans hdone)
            · exact .inr ⟨hkeep, hthere, hsame.trans (congrFun hdone _)⟩
          · refine .inl ?_
            rw [hlast, ← heq', hup.content]
        · obtain ⟨hintact, hdone⟩ := hrest o' ho'
          refine ⟨hintact, ?_⟩
          rcases hdone with hdone | ⟨hkeep, hthere, hdone⟩
          · exact .inl hdone
          · rcases hkey o'.key with hsame | ⟨heq', content, hup, hlast⟩
            · exact .inr ⟨hkeep, hsame ▸ hthere, hdone.trans hsame⟩
            · refine .inl ?_
              rw [hdone, hlast, ← heq', hup.content]

/-! ## The check of the restored objects -/

theorem verifyRestored_true {b : Bucket} {o : BackupObject} {calls : ObjectCalls}
    (h : verifyRestored b o calls = some true) :
    ∃ content, b o.key = some content ∧ (o.sha256 ≠ "" → sha256File content = o.sha256) := by
  unfold verifyRestored at h
  split at h
  · cases h
  · cases h
  · rename_i hthere
    have hsome : (b o.key).isSome := by
      unfold checkObject at hthere
      split at hthere
      · exact Option.some.inj hthere
      · cases hthere
      · cases hthere
    obtain ⟨content, hcontent⟩ := Option.isSome_iff_exists.1 hsome
    refine ⟨content, hcontent, fun hsha ↦ ?_⟩
    rw [if_neg hsha] at h
    split at h
    · rw [hcontent, Option.any_some, Option.some.injEq] at h
      exact of_decide_eq_true h
    · cases h
    · cases h

theorem verifyFailures_zero {b : Bucket} {l : List BackupObject} {calls : Nat → ObjectCalls}
    (h : verifyFailures b l calls = some 0) :
    ∀ o ∈ l, ∃ n, verifyRestored b o (calls n) = some true := by
  induction l generalizing calls with
  | nil => exact fun o ho ↦ absurd ho List.not_mem_nil
  | cons o l ih =>
      unfold verifyFailures at h
      split at h
      · cases h
      · rename_i verified hverified
        obtain ⟨failures, hfailures, hcount⟩ := Option.map_eq_some_iff.1 h
        cases verified with
        | false => cases hcount
        | true =>
            rw [if_pos rfl] at hcount
            subst hcount
            intro o' ho'
            rcases List.mem_cons.1 ho' with rfl | ho'
            · exact ⟨0, hverified⟩
            · obtain ⟨n, hn⟩ := ih hfailures o' ho'
              exact ⟨n + 1, hn⟩

/-! ## The script -/

variable {calls : Nat → ObjectCalls} {b : Bucket}

/-- The script either leaves the bucket, or has passed its gates and runs its loop. -/
theorem restore_cases (confirmation : String) (overwrite : Bool) (d : BackupDir)
    (bucketCall : CallAnswer) (calls : Nat → ObjectCalls) (b : Bucket) :
    restore confirmation overwrite d bucketCall calls b = (b, 1) ∨
      d.loads = true ∧ restore confirmation overwrite d bucketCall calls b =
        restoreManifest overwrite d calls b := by
  unfold restore
  split
  · exact .inl rfl
  · split
    · exact .inl rfl
    · rename_i hloads
      split
      · exact .inl rfl
      · exact .inr ⟨(Bool.not_eq_false _).mp hloads, rfl⟩

theorem restoreManifest_bucket : (restoreManifest overwrite d calls b).1 =
    (restoreObjects overwrite d { bucket := b } d.manifest.objects calls).1.bucket := by
  unfold restoreManifest
  generalize restoreObjects overwrite d { bucket := b } d.manifest.objects calls = run
  obtain ⟨s, goesOn⟩ := run
  cases goesOn with
  | false => rfl
  | true =>
      dsimp only
      split <;> rfl

theorem restoreManifest_success (h : (restoreManifest overwrite d calls b).2 = 0) :
    (restoreObjects overwrite d { bucket := b } d.manifest.objects calls).2 = true ∧
      (restoreObjects overwrite d { bucket := b } d.manifest.objects calls).1.errors = 0 ∧
      verifyFailures (restoreManifest overwrite d calls b).1 d.manifest.objects calls = some 0 := by
  rw [restoreManifest_bucket]
  unfold restoreManifest at h
  generalize restoreObjects overwrite d { bucket := b } d.manifest.objects calls = run at h ⊢
  obtain ⟨s, goesOn⟩ := run
  cases goesOn with
  | false => cases h
  | true =>
      dsimp only at h ⊢
      split at h
      · cases h
      · rename_i failures hfailures
        dsimp only at h
        split at h
        · rename_i hgood
          exact ⟨rfl, hgood.1, hgood.2 ▸ hfailures⟩
        · cases h

theorem loads_size (h : d.loads = true) {o : BackupObject} (ho : o ∈ d.manifest.objects) :
    (d.data o.key).size = some o.size :=
  of_decide_eq_true (List.all_eq_true.1 h o ho)

end Restore

/-- Whatever the directory holds and however the service fails, a restore changes an object only
to data of the directory that has the size and the digest of the manifest; it leaves the objects
that are there, unless told otherwise or misled about them; and when it reports success, the
target has an object with the digest of the manifest under every key of the manifest. -/
theorem restore_safe (confirmation : String) (overwrite : Bool) (d : BackupDir)
    (bucketCall : CallAnswer) (calls : Nat → ObjectCalls) (b : Bucket) :
    let r := restore confirmation overwrite d bucketCall calls b
    (∀ key, r.1 key = b key ∨ ∃ o ∈ d.manifest.objects, o.key = key ∧ ∃ content,
      d.data key = .file content ∧ content.length = o.size ∧
        (o.sha256 ≠ "" → sha256File content = o.sha256) ∧ r.1 key = some content) ∧
    (overwrite = false → ∀ key, (b key).isSome →
      (∀ n o, d.manifest.objects[n]? = some o → o.key = key → (calls n).stat ≠ .s3Error) →
      r.1 key = b key) ∧
    (r.2 = 0 → ∀ o ∈ d.manifest.objects, ∃ content, r.1 o.key = some content ∧
      (o.sha256 ≠ "" → sha256File content = o.sha256)) := by
  dsimp only
  rcases restore_cases confirmation overwrite d bucketCall calls b with h | ⟨hloads, h⟩
  · rw [h]
    exact ⟨fun _ ↦ .inl rfl, fun _ _ _ _ ↦ rfl, nofun⟩
  · rw [h]
    refine ⟨fun key ↦ ?_, ?_, fun hexit o ho ↦ ?_⟩
    · rw [restoreManifest_bucket]
      rcases restoreObjects_bucket overwrite d { bucket := b }
        d.manifest.objects calls key with h | ⟨o, ho, rfl, content, hup, h⟩
      · exact .inl h
      · have hsize := loads_size hloads ho
        rw [hup.data] at hsize
        exact .inr ⟨o, ho, rfl, content, hup.data, Option.some.inj hsize, hup.digest, h⟩
    · rintro rfl key hkey hstat
      rw [restoreManifest_bucket]
      exact restoreObjects_keeps hstat hkey
    · obtain ⟨-, -, hverified⟩ := restoreManifest_success hexit
      obtain ⟨n, hn⟩ := verifyFailures_zero hverified o ho
      exact verifyRestored_true hn

end RetailMedia
