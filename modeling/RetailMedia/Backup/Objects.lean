import RetailMedia.Lib.FileTree
import RetailMedia.Lib.Sha256
import RetailMedia.Lib.PyText

/-! The backup of a bucket into a directory, and the restore of a directory into a bucket. -/

namespace RetailMedia

open JsonText (codes)
open FilePath (parts)

/-- The contents of the objects under their keys. -/
abbrev Bucket := String → Option (List UInt8)

def sha256File (content : List UInt8) : String := Sha256.hexdigest (content.map (·.toNat))

structure BackupObject where
  key : String
  size : Nat
  /-- Empty where the manifest has none. -/
  sha256 : String := ""
  deriving DecidableEq, Repr

structure BucketManifest where
  bucket : String
  objectCount : Nat
  totalSizeBytes : Nat
  objects : List BackupObject
  deriving DecidableEq, Repr

/-! ## Backup -/

/-- An object as `list_objects` has it, and what `get_object` sends for it later: `none` if it
fails. -/
structure Listed where
  key : String
  size : Nat
  sent : Option (List UInt8)

/-- The loop of `run_backup`, in the directory `data`; `legal` are the paths whose names the file
system takes. -/
def downloadObjects (legal : FilePath → Bool) :
    FileTree (List UInt8) → List Listed → Option (FileTree (List UInt8) × List BackupObject)
  | t, [] => some (t, [])
  | t, o :: l =>
      match o.sent with
      | none => none
      | some content =>
          if legal (parts o.key) = false then none
          else
            match t.write (parts o.key) content with
            | none => none
            | some t =>
                match downloadObjects legal t l with
                | none => none
                | some (t, objects) =>
                    some (t, { key := o.key, size := o.size, sha256 := sha256File content } ::
                      objects)

def runBackup (legal : FilePath → Bool) (bucket : String) (t : FileTree (List UInt8))
    (l : List Listed) : Option (FileTree (List UInt8) × BucketManifest) :=
  match downloadObjects legal t l with
  | none => none
  | some (t, objects) =>
      some (t, {
        bucket := bucket
        objectCount := objects.length
        totalSizeBytes := (l.map (·.size)).sum
        objects := objects })

/-! ## Restore -/

/-- What is at the path of an object's data. -/
inductive LocalEntry
  | absent
  | directory (size : Nat)
  | file (content : List UInt8)
  deriving DecidableEq, Repr

def LocalEntry.content : LocalEntry → Option (List UInt8)
  | .file content => some content
  | _ => none

/-- `st_size`, if the path exists. -/
def LocalEntry.size : LocalEntry → Option Nat
  | .absent => none
  | .directory size => some size
  | .file content => some content.length

/-- A directory with the manifest and, for each key, what `data_dir / key` is. -/
structure BackupDir where
  manifest : BucketManifest
  data : String → LocalEntry

/-- The directory that a backup leaves; a directory has a size of its own. -/
def BackupDir.ofTree (sizes : FilePath → Nat) (t : FileTree (List UInt8)) (m : BucketManifest) :
    BackupDir where
  manifest := m
  data key :=
    match t.read (parts key) with
    | some content => .file content
    | none => if t.isDirectory (parts key) then .directory (sizes (parts key)) else .absent

/-- The checks of `_load_manifest` on the data files. -/
def BackupDir.loads (d : BackupDir) : Bool :=
  d.manifest.objects.all fun o ↦ (d.data o.key).size = some o.size

/-- `_verify_object_sha256`; `none` where the file cannot be read. -/
def verifyObjectSha256 (d : BackupDir) (o : BackupObject) : Option Bool :=
  (d.data o.key).content.map fun content ↦ sha256File content = o.sha256

inductive CallAnswer
  | ok
  | s3Error
  /-- An exception that the script does not catch. -/
  | raised
  deriving DecidableEq, Repr

/-- What the service answers to the calls for one object; a put that is not answered with `ok` may
have stored it. -/
structure ObjectCalls where
  stat : CallAnswer := .ok
  put : CallAnswer := .ok
  stored : Bool := false
  verifyStat : CallAnswer := .ok
  verifyGet : CallAnswer := .ok
  deriving DecidableEq, Repr

structure RestoreRun where
  bucket : Bucket
  uploaded : Nat := 0
  skipped : Nat := 0
  errors : Nat := 0

/-- `_check_object`. -/
def checkObject (b : Bucket) (key : String) : CallAnswer → Option Bool
  | .ok => some (b key).isSome
  | .s3Error => some false
  | .raised => none

def uploadObject (s : RestoreRun) (o : BackupObject) (content : List UInt8) (calls : ObjectCalls) :
    RestoreRun × Bool :=
  let stored : Bucket := Function.update s.bucket o.key (some content)
  match calls.put with
  | .ok => ({ s with bucket := stored, uploaded := s.uploaded + 1 }, true)
  | .s3Error =>
      ({ s with bucket := if calls.stored then stored else s.bucket, errors := s.errors + 1 }, true)
  | .raised => ({ s with bucket := if calls.stored then stored else s.bucket }, false)

/-- The body of the loop of `restore`; the flag says whether the script goes on. -/
def restoreObject (overwrite : Bool) (d : BackupDir) (s : RestoreRun) (o : BackupObject)
    (calls : ObjectCalls) : RestoreRun × Bool :=
  match if o.sha256 = "" then some true else verifyObjectSha256 d o with
  | none => (s, false)
  | some false => ({ s with errors := s.errors + 1 }, true)
  | some true =>
      match if overwrite then some false else checkObject s.bucket o.key calls.stat with
      | none => (s, false)
      | some true => ({ s with skipped := s.skipped + 1 }, true)
      | some false =>
          match (d.data o.key).content with
          | none => (s, false)
          | some content => uploadObject s o content calls

def restoreObjects (overwrite : Bool) (d : BackupDir) :
    RestoreRun → List BackupObject → (Nat → ObjectCalls) → RestoreRun × Bool
  | s, [], _ => (s, true)
  | s, o :: l, calls =>
      match restoreObject overwrite d s o (calls 0) with
      | (s, false) => (s, false)
      | (s, true) => restoreObjects overwrite d s l fun n ↦ calls (n + 1)

/-- The check of one restored object; `none` where the script stops. -/
def verifyRestored (b : Bucket) (o : BackupObject) (calls : ObjectCalls) : Option Bool :=
  match checkObject b o.key calls.verifyStat with
  | none => none
  | some false => some false
  | some true =>
      if o.sha256 = "" then some true
      else
        match calls.verifyGet with
        | .ok => some ((b o.key).any fun content ↦ sha256File content = o.sha256)
        | .s3Error => some false
        | .raised => none

/-- The number of objects that fail the check. -/
def verifyFailures (b : Bucket) : List BackupObject → (Nat → ObjectCalls) → Option Nat
  | [], _ => some 0
  | o :: l, calls =>
      match verifyRestored b o (calls 0) with
      | none => none
      | some verified =>
          (verifyFailures b l fun n ↦ calls (n + 1)).map fun failures ↦
            if verified then failures else failures + 1

/-- `restore` from its loop on: the target bucket and the exit code. -/
def restoreManifest (overwrite : Bool) (d : BackupDir) (calls : Nat → ObjectCalls) (b : Bucket) :
    Bucket × Nat :=
  match restoreObjects overwrite d { bucket := b } d.manifest.objects calls with
  | (s, false) => (s.bucket, 1)
  | (s, true) =>
      match verifyFailures s.bucket d.manifest.objects calls with
      | none => (s.bucket, 1)
      | some failures => (s.bucket, if s.errors = 0 ∧ failures = 0 then 0 else 1)

/-- `bucketCall` is the answer when the script looks for the bucket and makes it. -/
def restore (confirmation : String) (overwrite : Bool) (d : BackupDir) (bucketCall : CallAnswer)
    (calls : Nat → ObjectCalls) (b : Bucket) : Bucket × Nat :=
  if PyText.strip (codes confirmation) ≠ codes "yes" then (b, 1)
  else if d.loads = false then (b, 1)
  else if bucketCall ≠ .ok then (b, 1)
  else restoreManifest overwrite d calls b

/-- `check_backup`: its exit code. -/
def checkBackup (d : BackupDir) : Nat :=
  if d.loads = false then 1
  else if d.manifest.objects.all fun o ↦ o.sha256 = "" ∨ verifyObjectSha256 d o = some true then 0
  else 1

end RetailMedia
