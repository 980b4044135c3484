import Adn.Lib.Statements
import Adn.ReleaseRemote
/-!
# Extracting the proof inputs into a directory

Both scripts extract `proof-input.tar` into a directory that may have entries already, and
a write may fail at any point. However they end, only expected names that were free are
there besides, as regular files; when they return, every expected file is there with the
bytes of a member of its name (`extraction_sound`).
-/

open Lib

namespace Adn

namespace Release

open Asset (Listing Member slash normpath outputName)

/-! ## Writing -/

/-- How a write can fail: nothing is created, or a file with the first bytes. -/
inductive WriteFault where
  | refused
  | cut (written : ℕ)

/-- `target.write_bytes(payload)`, where `target` was not there -/
def writeBytes (fault : Str → Option WriteFault) (name : Str) (payload : List UInt8) : Statements Failure Listing Unit :=
  match fault name with
  | none => modify (· ++ [(name, .file payload)])
  | some .refused => .ofExcept (.error .other)
  | some (.cut written) => do
    modify (· ++ [(name, .file (payload.take written))])
    .ofExcept (.error .other)

/-- `name.replace("\\", "/")` -/
def slashed (name : Str) : Str := name.map fun u => if u = 0x5C then slash else u

/-! ## The release asset -/

namespace Asset

/-- One round of `extract_proof_input_tar`, after the names in `extracted` -/
def extractMemberInto (fault : Str → Option WriteFault) (extracted : List Str) (member : Member) :
    Statements Failure Listing (List Str) := do
  let unexpected := Str.ofString "unexpected proof input archive path: " ++ member.name
  let name := slashed member.name
  .ofExcept (require (name.head? ≠ some slash && normpath name = name && member.isFile) unexpected)
  match outputName name with
  | none => .ofExcept (.error (.runtime unexpected))
  | some output =>
    .ofExcept (require (output ∉ extracted) (Str.ofString "duplicate proof input archive path: " ++ member.name))
    match member.stream with
    | none => .ofExcept (.error (.runtime (Str.ofString "cannot read proof input archive path: " ++ member.name)))
    | some stream =>
      let dir ← get
      .ofExcept (require (dir.lookup output).isNone
        (Str.ofString "refusing to overwrite materialized release proof input: " ++ output))
      match stream with
      | none => .ofExcept (.error (.runtime "proof-input.tar is not a valid tar archive"))
      | some bytes =>
        writeBytes fault output bytes
        return extracted ++ [output]

/-- `extract_proof_input_tar` -/
def Host.extractProofInputTarInto (h : Host) (fault : Str → Option WriteFault) (archive : List UInt8) :
    Statements Failure Listing Unit :=
  match h.getmembers archive with
  | none => .ofExcept (.error (.runtime "proof-input.tar is not a valid tar archive"))
  | some members => do
    let extracted ← members.foldlM (extractMemberInto fault) []
    let missing := sorted (proofInputFiles.filter (· ∉ extracted))
    .ofExcept (require (missing = []) (Str.ofString "proof-input.tar missing release proof inputs: " ++ joinNames missing))

end Asset

/-! ## The downloaded artifact -/

namespace Remote

def materializeFile (fault : Str → Option WriteFault) (file : Str × List UInt8) : Statements Failure Listing PUnit := do
  let dir ← get
  .ofExcept (require (dir.lookup file.1).isNone
    (Str.ofString "refusing to overwrite materialized proof input: " ++ file.1))
  writeBytes fault file.1 file.2

/-- `materialize_proof_inputs_from_artifact_zip`, where `mkdir` is what making the directory gives; the result is the
digest -/
def Host.materializeProofInputs (h : Host) (fault : Str → Option WriteFault) (mkdir : Except Failure Unit)
    (zip : List UInt8) : Statements Failure Listing Str := do
  .ofExcept mkdir
  let extracted ← .ofExcept (h.extractProofInputTar zip)
  extracted.forM (materializeFile fault)
  .ofExcept (h.proofInputDigestFromBytes extracted)

/-- The tar archive in the artifact. -/
def Host.tarPayload (h : Host) (zip : List UInt8) : Option (List UInt8) := do
  let names ← h.namelist zip
  guard (Host.proofInputTar ∈ names)
  (h.zipRead zip Host.proofInputTar).toOption

def Host.tarMembers (h : Host) (zip : List UInt8) : Option (List Member) := do
  h.getmembers (← h.tarPayload zip)

end Remote

/-! ## Confinement -/

/-- A regular file with an expected name that was free. -/
structure NewFile (dir : Listing) (entry : Str × Asset.Entry) : Prop where
  expected : entry.1 ∈ proofInputFiles
  regular : ∃ bytes, entry.2 = .file bytes
  free : dir.lookup entry.1 = none

/-- The entries of `dir` are as they were, and all others are new files, each once. -/
def Confined (dir dir' : Listing) : Prop :=
  ∃ created : Listing, dir' = dir ++ created ∧ (created.map (·.1)).Nodup ∧ ∀ entry ∈ created, NewFile dir entry

theorem confined_refl (dir : Listing) : Confined dir dir := ⟨[], by simp, List.nodup_nil, by simp⟩

theorem confined_trans (a b c : Listing) (hab : Confined a b) (hbc : Confined b c) : Confined a c := by
  obtain ⟨first, rfl, hfirst, hnew⟩ := hab
  obtain ⟨second, rfl, hsecond, hnew'⟩ := hbc
  have hfree : ∀ entry ∈ second, a.lookup entry.1 = none ∧ first.lookup entry.1 = none := by
    intro entry hentry
    have h := (hnew' entry hentry).free
    rwa [List.lookup_append, Option.or_eq_none_iff] at h
  refine ⟨first ++ second, List.append_assoc .., ?_, ?_⟩
  · rw [List.map_append, List.nodup_append]
    refine ⟨hfirst, hsecond, ?_⟩
    intro name hname name' hname' heq
    subst heq
    obtain ⟨entry, hentry, rfl⟩ := List.mem_map.1 hname'
    have hnone := (hfree entry hentry).2
    rw [List.lookup_eq_none_iff] at hnone
    obtain ⟨e, he, heq⟩ := List.mem_map.1 hname
    simpa [heq] using hnone e he
  · intro entry hentry
    rcases List.mem_append.1 hentry with hentry | hentry
    · exact hnew entry hentry
    · exact ⟨(hnew' entry hentry).expected, (hnew' entry hentry).regular, (hfree entry hentry).1⟩

section
variable {fault : Str → Option WriteFault} {name : Str} {payload : List UInt8} {dir dir' : Listing}

theorem confined_write (hname : name ∈ proofInputFiles) (hfree : dir.lookup name = none) (bytes : List UInt8) :
    Confined dir (dir ++ [(name, .file bytes)]) := by
  refine ⟨[(name, .file bytes)], rfl, List.nodup_singleton _, ?_⟩
  intro entry hentry
  rw [List.mem_singleton] at hentry
  subst hentry
  exact ⟨hname, ⟨bytes, rfl⟩, hfree⟩

/-- A write of a free name is confined, also where it fails. -/
theorem writeBytes_confined (hname : name ∈ proofInputFiles) (hfree : dir.lookup name = none) :
    Confined dir ((writeBytes fault name payload).on dir).2 := by
  unfold writeBytes
  cases fault name with
  | none => exact confined_write hname hfree payload
  | some f =>
    cases f with
    | refused => exact confined_refl dir
    | cut written => exact confined_write hname hfree (payload.take written)

theorem writeBytes_ok : (writeBytes fault name payload).on dir = (.ok (), dir') ↔
    fault name = none ∧ dir' = dir ++ [(name, .file payload)] := by
  unfold writeBytes
  cases fault name with
  | none =>
    rw [Statements.on_modify]
    simp [eq_comm]
  | some f =>
    refine iff_of_false ?_ (by simp)
    intro h
    cases f <;> cases h

end

/-! ## One member -/

theorem outputName_some {path name : Str} (h : outputName path = some name) :
    name ∈ proofInputFiles ∧ (path = name ∨ path = Remote.Host.memberPath name) := by
  unfold outputName at h
  split at h
  · cases h
    exact ⟨‹_›, .inl rfl⟩
  · dsimp only at h
    split at h
    · rename_i hrelease
      cases h
      obtain ⟨hstart, hmem⟩ := hrelease
      refine ⟨hmem, .inr ?_⟩
      obtain ⟨rest, rfl⟩ := List.isPrefixOf_iff_prefix.1 hstart
      rw [List.drop_left]
      rfl
    · cases h

section
variable {fault : Str → Option WriteFault} {extracted extracted' : List Str} {member : Member} {dir dir' : Listing}

theorem extractMemberInto_confined (fault : Str → Option WriteFault) (extracted : List Str) (member : Member) :
    Statements.Leaves Confined (Asset.extractMemberInto fault extracted member) := by
  unfold Asset.extractMemberInto
  refine (Statements.leaves_ofExcept confined_refl _).bind confined_trans fun _ => ?_
  cases houtput : outputName (slashed member.name) with
  | none => exact Statements.leaves_ofExcept confined_refl _
  | some output =>
    have hexpected := (outputName_some houtput).1
    refine (Statements.leaves_ofExcept confined_refl _).bind confined_trans fun _ => ?_
    cases member.stream with
    | none => exact Statements.leaves_ofExcept confined_refl _
    | some stream =>
      intro dir
      rw [Statements.on_bind_ok Statements.on_get]
      apply Statements.on_bind_leaves (confined_refl dir)
      intro _ t hcheck
      rw [Statements.on_ofExcept] at hcheck
      injection hcheck with hcheck ht
      subst ht
      rw [Release.require_ok, Option.isNone_iff_eq_none] at hcheck
      cases stream with
      | none => exact confined_refl dir
      | some bytes =>
        -- the name is free in the directory as it is now
        apply Statements.on_bind_leaves (writeBytes_confined hexpected hcheck)
        intro _ t hwrite
        rw [(writeBytes_ok.1 hwrite).2]
        exact confined_write hexpected hcheck bytes

/-- A member that is extracted: a regular file with the path of an expected file, which is written. -/
structure Extracts (extracted : List Str) (dir : Listing) (member : Member) (output : Str) (bytes : List UInt8) : Prop where
  rooted : (slashed member.name).head? ≠ some slash
  normal : normpath (slashed member.name) = slashed member.name
  isFile : member.isFile = true
  named : outputName (slashed member.name) = some output
  new : output ∉ extracted
  stream : member.stream = some (some bytes)
  free : dir.lookup output = none

theorem extractMemberInto_ok : (Asset.extractMemberInto fault extracted member).on dir = (.ok extracted', dir') ↔
    ∃ output bytes, Extracts extracted dir member output bytes ∧ fault output = none ∧
      extracted' = extracted ++ [output] ∧ dir' = dir ++ [(output, .file bytes)] := by
  unfold Asset.extractMemberInto
  rw [Statements.on_ofExcept_bind_eq_ok]
  simp only [Release.require_ok, Bool.and_eq_true, decide_eq_true_eq]
  constructor
  · rintro ⟨_, ⟨⟨hrooted, hnormal⟩, hfile⟩, h⟩
    cases houtput : outputName (slashed member.name) with
    | none =>
      rw [houtput] at h
      cases h
    | some output =>
      rw [houtput] at h
      obtain ⟨_, hnew, h⟩ := Statements.on_ofExcept_bind_eq_ok.1 h
      rw [Release.require_ok, decide_eq_true_eq] at hnew
      cases hstream : member.stream with
      | none =>
        rw [hstream] at h
        cases h
      | some stream =>
        rw [hstream] at h
        dsimp only at h
        rw [Statements.on_bind_ok Statements.on_get] at h
        obtain ⟨_, hfree, h⟩ := Statements.on_ofExcept_bind_eq_ok.1 h
        rw [Release.require_ok, Option.isNone_iff_eq_none] at hfree
        cases stream with
        | none => cases h
        | some bytes =>
          obtain ⟨_, t, hwrite, h⟩ := Statements.on_bind_eq_ok.1 h
          obtain ⟨hfault, rfl⟩ := writeBytes_ok.1 hwrite
          cases h
          exact ⟨output, bytes, ⟨hrooted, hnormal, hfile, houtput, hnew, hstream, hfree⟩, hfault, rfl, rfl⟩
  · rintro ⟨output, bytes, ⟨hrooted, hnormal, hfile, houtput, hnew, hstream, hfree⟩, hfault, rfl, rfl⟩
    refine ⟨(), ⟨⟨hrooted, hnormal⟩, hfile⟩, ?_⟩
    rw [houtput, hstream]
    refine Statements.on_ofExcept_bind_eq_ok.2 ⟨(), Release.require_ok.2 (by simpa using hnew), ?_⟩
    dsimp only
    rw [Statements.on_bind_ok Statements.on_get]
    refine Statements.on_ofExcept_bind_eq_ok.2 ⟨(), Release.require_ok.2 (by simpa using hfree), ?_⟩
    rw [Statements.on_bind_ok (writeBytes_ok.2 ⟨hfault, rfl⟩)]
    rfl

/-- The round of the script on an empty directory. -/
theorem extractMember_ok {e e' : Asset.Extraction} : Asset.extractMember e member = .ok e' ↔
    ∃ output bytes, Extracts e.extracted e.dir member output bytes ∧
      e' = ⟨e.extracted ++ [output], e.dir ++ [(output, .file bytes)]⟩ := by
  unfold Asset.extractMember
  rw [bind_ok]
  simp only [Release.require_ok, Bool.and_eq_true, decide_eq_true_eq]
  constructor
  · rintro ⟨_, ⟨⟨hrooted, hnormal⟩, hfile⟩, h⟩
    cases houtput : outputName (slashed member.name) with
    | none =>
      rw [← slashed, houtput] at h
      cases h
    | some output =>
      rw [← slashed, houtput] at h
      obtain ⟨_, hnew, h⟩ := bind_ok.1 h
      rw [Release.require_ok, decide_eq_true_eq] at hnew
      cases hstream : member.stream with
      | none =>
        rw [hstream] at h
        cases h
      | some stream =>
        rw [hstream] at h
        obtain ⟨_, hfree, h⟩ := bind_ok.1 h
        rw [Release.require_ok, Option.isNone_iff_eq_none] at hfree
        cases stream with
        | none => cases h
        | some bytes =>
          cases h
          exact ⟨output, bytes, ⟨hrooted, hnormal, hfile, houtput, hnew, hstream, hfree⟩, rfl⟩
  · rintro ⟨output, bytes, ⟨hrooted, hnormal, hfile, houtput, hnew, hstream, hfree⟩, rfl⟩
    refine ⟨(), ⟨⟨hrooted, hnormal⟩, hfile⟩, ?_⟩
    rw [← slashed, houtput, hstream]
    refine bind_ok.2 ⟨(), Release.require_ok.2 (by simpa using hnew), ?_⟩
    exact bind_ok.2 ⟨(), Release.require_ok.2 (by simpa using hfree), rfl⟩

end

/-- Into an empty directory where no write fails, the script extracts what was modelled as its result. -/
theorem extractInto_empty (h : Asset.Host) (archive : List UInt8) (listing : Listing) :
    (h.extractProofInputTarInto (fun _ => none) archive).on [] = (.ok (), listing) ↔
      h.extractProofInputTar archive = .ok listing := by
  have hloop : ∀ (members : List Member) (extracted extracted' : List Str) (dir dir' : Listing),
      (members.foldlM (Asset.extractMemberInto fun _ => none) extracted).on dir = (.ok extracted', dir') ↔
        members.foldlM Asset.extractMember ⟨extracted, dir⟩ = .ok ⟨extracted', dir'⟩ := by
    intro members
    induction members with
    | nil =>
      intro extracted extracted' dir dir'
      rw [List.foldlM_nil, List.foldlM_nil, Statements.on_pure, pure_ok]
      simp
    | cons member members ih =>
      intro extracted extracted' dir dir'
      rw [List.foldlM_cons, List.foldlM_cons, Statements.on_bind_eq_ok, bind_ok]
      simp only [extractMemberInto_ok, extractMember_ok, ih]
      constructor
      · rintro ⟨_, _, ⟨output, bytes, hextracts, -, rfl, rfl⟩, hrest⟩
        exact ⟨_, ⟨output, bytes, hextracts, rfl⟩, hrest⟩
      · rintro ⟨_, ⟨output, bytes, hextracts, rfl⟩, hrest⟩
        exact ⟨_, _, ⟨output, bytes, hextracts, trivial, rfl, rfl⟩, hrest⟩
  unfold Asset.Host.extractProofInputTarInto Asset.Host.extractProofInputTar
  cases h.getmembers archive with
  | none =>
    refine iff_of_false ?_ ?_
    · intro hraised
      cases hraised
    · intro hraised
      cases hraised
  | some members =>
    simp only [Statements.on_bind_eq_ok, hloop, bind_ok, pure_ok, Statements.on_ofExcept, Prod.mk.injEq]
    constructor
    · rintro ⟨extracted, dir, hrounds, hmissing, rfl⟩
      exact ⟨_, hrounds, _, hmissing, rfl⟩
    · rintro ⟨⟨extracted, dir⟩, hrounds, _, hmissing, rfl⟩
      exact ⟨extracted, dir, hrounds, hmissing, rfl⟩

/-! ## What has to come out -/

/-- The paths that the release asset may have a file under. -/
def assetPath (name path : Str) : Prop := path = name ∨ path = Remote.Host.memberPath name

/-- The path that the artifact has a file under. -/
def artifactPath (name path : Str) : Prop := path = Remote.Host.memberPath name

section
variable {path : Str → Str → Prop} {members : List Member} {dir dir' : Listing}

/-- A regular file whose name normalizes to an expected path. -/
structure Regular (path : Str → Str → Prop) (member : Member) : Prop where
  isFile : member.isFile = true
  expected : ∃ name ∈ proofInputFiles, path name (normpath (slashed member.name))

/-- The file is there with the bytes of a member of its name. -/
def FromMember (path : Str → Str → Prop) (members : List Member) (dir : Listing) (name : Str) : Prop :=
  ∃ member ∈ members, member.isFile = true ∧ path name (slashed member.name) ∧
    ∃ bytes, member.stream = some (some bytes) ∧ dir.lookup name = some (.file bytes)

/-- What an extraction of an archive with these members should do, if it has any. -/
structure Sound {α : Type} (path : Str → Str → Prop) (members : Option (List Member)) (dir : Listing)
    (result : Except Failure α × Listing) : Prop where
  confined : Confined dir result.2
  unread : members = none → ∃ e, result.1 = .error e
  raises : ∀ ms, members = some ms → (∃ member ∈ ms, ¬Regular path member) → ∃ e, result.1 = .error e
  complete : ∀ a, result.1 = .ok a → ∃ ms, members = some ms ∧ ∀ name ∈ proofInputFiles, FromMember path ms result.2 name

/-- It is enough to look at the extractions that return. -/
theorem sound_of {α : Type} {members : Option (List Member)} {result : Except Failure α × Listing}
    (hconfined : Confined dir result.2) (hok : ∀ a, result.1 = .ok a → ∃ ms, members = some ms ∧
      (∀ member ∈ ms, Regular path member) ∧ ∀ name ∈ proofInputFiles, FromMember path ms result.2 name) :
    Sound path members dir result := by
  have hraises : ¬(∃ ms, members = some ms ∧ ∀ member ∈ ms, Regular path member) → ∃ e, result.1 = .error e := by
    intro hnot
    cases hresult : result.1 with
    | error e => exact ⟨e, rfl⟩
    | ok a =>
      obtain ⟨ms, hms, hregular, -⟩ := hok a hresult
      exact absurd ⟨ms, hms, hregular⟩ hnot
  refine ⟨hconfined, ?_, ?_, ?_⟩
  · rintro rfl
    apply hraises
    rintro ⟨ms, hms, -⟩
    cases hms
  · rintro ms rfl ⟨member, hmem, hnot⟩
    apply hraises
    rintro ⟨ms', hms, hregular⟩
    cases hms
    exact hnot (hregular member hmem)
  · intro a ha
    obtain ⟨ms, hms, -, hfrom⟩ := hok a ha
    exact ⟨ms, hms, hfrom⟩

theorem FromMember.mono {members' : List Member} {name : Str} (h : FromMember path members dir name)
    (hm : ∀ member ∈ members, member ∈ members')
    (hl : ∀ entry, dir.lookup name = some entry → dir'.lookup name = some entry) : FromMember path members' dir' name := by
  obtain ⟨member, hmem, hfile, hpath, bytes, hstream, hlookup⟩ := h
  exact ⟨member, hm member hmem, hfile, hpath, bytes, hstream, hl _ hlookup⟩

/-- An entry stays where more are added after it. -/
theorem lookup_kept {name : Str} {entry : Asset.Entry} {added : Listing} (h : dir.lookup name = some entry) :
    (dir ++ added).lookup name = some entry := by
  rw [List.lookup_append, h]
  rfl

theorem lookup_added {name : Str} {entry : Asset.Entry} (h : dir.lookup name = none) :
    (dir ++ [(name, entry)]).lookup name = some entry := by
  rw [List.lookup_append, h, List.lookup_cons_self]
  rfl

end

/-! ## The two extractions -/

section
variable {fault : Str → Option WriteFault} {dir dir' : Listing}

/-- The rounds so far: their members are regular, and their files are there. -/
structure AssetRounds (done : List Member) (extracted : List Str) (dir : Listing) : Prop where
  regular : ∀ member ∈ done, Regular assetPath member
  written : ∀ name ∈ extracted, FromMember assetPath done dir name

theorem AssetRounds.step {done : List Member} {extracted extracted' : List Str} {member : Member}
    (hr : AssetRounds done extracted dir)
    (h : (Asset.extractMemberInto fault extracted member).on dir = (.ok extracted', dir')) :
    AssetRounds (done ++ [member]) extracted' dir' := by
  obtain ⟨output, bytes, ⟨-, hnormal, hfile, houtput, -, hstream, hfree⟩, -, rfl, rfl⟩ := extractMemberInto_ok.1 h
  obtain ⟨hexpected, hpath⟩ := outputName_some houtput
  refine ⟨?_, ?_⟩
  · intro m hm
    rcases List.mem_append.1 hm with hm | hm
    · exact hr.regular m hm
    · rw [List.mem_singleton] at hm
      subst hm
      exact ⟨hfile, output, hexpected, hnormal.symm ▸ hpath⟩
  · intro name hname
    rcases List.mem_append.1 hname with hname | hname
    · exact (hr.written name hname).mono (fun _ => List.mem_append_left _) fun _ => lookup_kept
    · rw [List.mem_singleton] at hname
      subst hname
      exact ⟨member, List.mem_append_right _ (List.mem_singleton.2 rfl), hfile, hpath, bytes, hstream, lookup_added hfree⟩

theorem sorted_eq_nil {names : List Str} : Asset.sorted names = [] ↔ names = [] := by
  rw [Asset.sorted, sortFields, List.map_eq_nil_iff, ← List.length_eq_zero_iff, List.length_insertionSort,
    List.length_map, List.length_eq_zero_iff]

theorem asset_sound (h : Asset.Host) (fault : Str → Option WriteFault) (archive : List UInt8) (dir : Listing) :
    Sound assetPath (h.getmembers archive) dir ((h.extractProofInputTarInto fault archive).on dir) := by
  unfold Asset.Host.extractProofInputTarInto
  cases h.getmembers archive with
  | none =>
    refine sound_of (confined_refl dir) ?_
    rintro _ hraised
    cases hraised
  | some members =>
    have hloop := Statements.leaves_foldlM confined_refl confined_trans
      (fun extracted member (_ : member ∈ members) => extractMemberInto_confined fault extracted member) []
    refine sound_of (hloop.bind confined_trans (fun _ => Statements.leaves_ofExcept confined_refl _) dir) ?_
    intro u hu
    obtain ⟨extracted, t, hrounds, hlast⟩ := Statements.on_bind_eq_ok.1 (Prod.ext hu rfl)
    have hinv : AssetRounds ([] ++ members) extracted t :=
      Statements.foldlM_ok (fun _ _ _ _ _ _ hr => hr.step) [] ⟨by simp, by simp⟩ hrounds
    rw [Statements.on_ofExcept] at hlast
    injection hlast with hmissing ht
    rw [Release.require_ok, decide_eq_true_eq, sorted_eq_nil, List.filter_eq_nil_iff] at hmissing
    refine ⟨members, rfl, hinv.regular, ?_⟩
    intro name hname
    subst ht
    exact hinv.written name (by simpa using hmissing name hname)

/-! The artifact. -/

theorem materializeFile_confined {file : Str × List UInt8} (hexpected : file.1 ∈ proofInputFiles) :
    Statements.Leaves Confined (Remote.materializeFile fault file) := by
  intro dir
  unfold Remote.materializeFile
  rw [Statements.on_bind_ok Statements.on_get]
  apply Statements.on_bind_leaves (confined_refl dir)
  intro _ t hcheck
  rw [Statements.on_ofExcept] at hcheck
  injection hcheck with hcheck ht
  subst ht
  rw [Release.require_ok, Option.isNone_iff_eq_none] at hcheck
  exact writeBytes_confined hexpected hcheck

theorem materializeFile_ok {file : Str × List UInt8} (h : (Remote.materializeFile fault file).on dir = (.ok ⟨⟩, dir')) :
    dir.lookup file.1 = none ∧ dir' = dir ++ [(file.1, .file file.2)] := by
  unfold Remote.materializeFile at h
  rw [Statements.on_bind_ok Statements.on_get] at h
  obtain ⟨_, hfree, h⟩ := Statements.on_ofExcept_bind_eq_ok.1 h
  rw [Release.require_ok, Option.isNone_iff_eq_none] at hfree
  exact ⟨hfree, (writeBytes_ok.1 h).2⟩

/-- A member that passes is a regular file at the path of an expected file. -/
structure Proper (member : Member) : Prop where
  isFile : member.isFile = true
  rooted : (slashed member.name).head? ≠ some slash
  normal : normpath (slashed member.name) = slashed member.name
  expected : ∃ name ∈ proofInputFiles, slashed member.name = Remote.Host.memberPath name

theorem checkMember_ok {table table' : List (Str × Member)} {member : Member} :
    Remote.Host.checkMember table member = .ok table' ↔
      Proper member ∧ table' = (slashed member.name, member) :: table := by
  unfold Remote.Host.checkMember
  simp only [bind_ok, Release.require_ok, pure_ok, Bool.and_eq_true, decide_eq_true_eq, List.mem_map]
  constructor
  · rintro ⟨-, ⟨⟨hrooted, hnormal⟩, name, hname, hpath⟩, -, hfile, htable⟩
    exact ⟨⟨hfile, hrooted, hnormal, name, hname, hpath.symm⟩, htable.symm⟩
  · rintro ⟨⟨hfile, hrooted, hnormal, name, hname, hpath⟩, htable⟩
    exact ⟨(), ⟨⟨hrooted, hnormal⟩, name, hname, hpath.symm⟩, (), hfile, htable.symm⟩

/-- The checks of all members, and the table that they leave. -/
theorem checkMembers_ok {members : List Member} {table table' : List (Str × Member)} :
    members.foldlM Remote.Host.checkMember table = .ok table' ↔ (∀ member ∈ members, Proper member) ∧
      table' = (members.map fun member => (slashed member.name, member)).reverse ++ table := by
  induction members generalizing table with
  | nil =>
    rw [List.foldlM_nil, pure_ok]
    simp [eq_comm]
  | cons member members ih =>
    simp only [List.foldlM_cons, bind_ok, checkMember_ok, ih, List.forall_mem_cons, List.map_cons, List.reverse_cons,
      List.append_assoc, List.singleton_append]
    constructor
    · rintro ⟨_, ⟨hproper, rfl⟩, hrest, htable⟩
      exact ⟨⟨hproper, hrest⟩, htable⟩
    · rintro ⟨⟨hproper, hrest⟩, htable⟩
      exact ⟨_, ⟨hproper, rfl⟩, hrest, htable⟩

theorem readMember_ok {table : List (Str × Member)} {name : Str} {file : Str × List UInt8} :
    Remote.Host.readMember table name = .ok file ↔ file.1 = name ∧
      ∃ member, table.lookup (Remote.Host.memberPath name) = some member ∧ member.stream = some (some file.2) := by
  obtain ⟨fileName, bytes⟩ := file
  unfold Remote.Host.readMember
  cases table.lookup (Remote.Host.memberPath name) with
  | none => simp
  | some member =>
    cases hstream : member.stream with
    | none => simp [hstream]
    | some stream => cases stream <;> simp [hstream, eq_comm]

theorem mem_of_lookup {α : Type} {xs : List (Str × α)} {k : Str} {v : α} (h : xs.lookup k = some v) : (k, v) ∈ xs := by
  induction xs with
  | nil => cases h
  | cons x xs ih =>
    obtain ⟨k', v'⟩ := x
    rw [List.lookup_cons] at h
    split at h
    · rename_i heq
      cases h
      rw [eq_of_beq heq]
      exact List.mem_cons_self
    · exact List.mem_cons_of_mem _ (ih h)

section
variable {h : Remote.Host} {zip : List UInt8} {extracted : List (Str × List UInt8)}

/-- What the artifact's extraction returns is read from the table of its members. -/
theorem extractProofInputTar_ok (hx : h.extractProofInputTar zip = .ok extracted) :
    ∃ members, h.tarMembers zip = some members ∧ (∀ member ∈ members, Proper member) ∧
      List.Forall₂ (fun name file => Remote.Host.readMember
        (members.map fun member => (slashed member.name, member)).reverse name = .ok file) proofInputFiles extracted := by
  unfold Remote.Host.extractProofInputTar at hx
  unfold Remote.Host.tarMembers Remote.Host.tarPayload
  cases hnames : h.namelist zip with
  | none =>
    rw [hnames] at hx
    cases hx
  | some names =>
    rw [hnames] at hx
    obtain ⟨_, hin, hx⟩ := bind_ok.1 hx
    obtain ⟨tar, hread, hx⟩ := bind_ok.1 hx
    rw [Release.require_ok, decide_eq_true_eq] at hin
    cases hmembers : h.getmembers tar with
    | none =>
      rw [hmembers] at hx
      cases hx
    | some members =>
      rw [hmembers] at hx
      obtain ⟨table, htable, hx⟩ := bind_ok.1 hx
      obtain ⟨hproper, rfl⟩ := checkMembers_ok.1 htable
      rw [List.append_nil] at hx
      refine ⟨members, ?_, hproper, forall₂_mapM hx⟩
      simp [hin, hread, hmembers, Except.toOption]

/-- Each expected file is returned once, with the bytes of a member at its path. -/
theorem extracted_from_members (hx : h.extractProofInputTar zip = .ok extracted) : ∃ members,
    h.tarMembers zip = some members ∧ (∀ member ∈ members, Proper member) ∧ extracted.map (·.1) = proofInputFiles ∧
      ∀ file ∈ extracted, ∃ member ∈ members, slashed member.name = Remote.Host.memberPath file.1 ∧
        member.stream = some (some file.2) := by
  obtain ⟨members, hmembers, hproper, hread⟩ := extractProofInputTar_ok hx
  refine ⟨members, hmembers, hproper, ?_, ?_⟩
  · clear hx
    generalize proofInputFiles = names at hread
    induction hread with
    | nil => rfl
    | cons hfile _ ih => rw [List.map_cons, ih, (readMember_ok.1 hfile).1]
  · intro file hfile
    obtain ⟨name, -, hread⟩ := mem_right hread hfile
    obtain ⟨rfl, member, hlookup, hstream⟩ := readMember_ok.1 hread
    have hmem := mem_of_lookup hlookup
    rw [List.mem_reverse, List.mem_map] at hmem
    obtain ⟨m, hm, heq⟩ := hmem
    rw [Prod.mk.injEq] at heq
    obtain ⟨hpath, rfl⟩ := heq
    exact ⟨m, hm, hpath, hstream⟩

end

theorem artifact_sound (h : Remote.Host) (fault : Str → Option WriteFault) (mkdir : Except Failure Unit)
    (zip : List UInt8) (dir : Listing) :
    Sound artifactPath (h.tarMembers zip) dir ((h.materializeProofInputs fault mkdir zip).on dir) := by
  unfold Remote.Host.materializeProofInputs
  refine sound_of ?_ ?_
  · refine (Statements.leaves_ofExcept confined_refl _).bind confined_trans (fun _ => ?_) dir
    intro dir
    apply Statements.on_bind_leaves (confined_refl dir)
    intro extracted t hx
    rw [Statements.on_ofExcept] at hx
    injection hx with hx ht
    subst ht
    obtain ⟨-, -, -, hnames, -⟩ := extracted_from_members hx
    have hfiles : ∀ file ∈ extracted, Statements.Leaves Confined (Remote.materializeFile fault file) := by
      intro file hfile
      apply materializeFile_confined
      rw [← hnames]
      exact List.mem_map_of_mem hfile
    exact (Statements.leaves_forM confined_refl confined_trans hfiles).bind confined_trans
      (fun _ => Statements.leaves_ofExcept confined_refl _) dir
  · intro digest hdigest
    obtain ⟨_, -, hrest⟩ := Statements.on_ofExcept_bind_eq_ok.1 (Prod.ext hdigest rfl)
    obtain ⟨extracted, hx, hrest⟩ := Statements.on_ofExcept_bind_eq_ok.1 hrest
    obtain ⟨_, t, hwritten, hlast⟩ := Statements.on_bind_eq_ok.1 hrest
    rw [Statements.on_ofExcept] at hlast
    injection hlast with _ ht
    have hthere : ∀ file ∈ [] ++ extracted, t.lookup file.1 = some (.file file.2) := by
      apply Statements.forM_ok (I := fun done dir => ∀ file ∈ done, dir.lookup file.1 = some (.file file.2)) ?_ [] (by simp)
        hwritten
      intro done dir file dir' hdone hfile
      obtain ⟨hfree, rfl⟩ := materializeFile_ok hfile
      intro f hf
      rcases List.mem_append.1 hf with hf | hf
      · exact lookup_kept (hdone f hf)
      · rw [List.mem_singleton] at hf
        subst hf
        exact lookup_added hfree
    obtain ⟨members, hmembers, hproper, hnames, hfrom⟩ := extracted_from_members hx
    refine ⟨members, hmembers, ?_, ?_⟩
    · intro member hmember
      obtain ⟨hfile, -, hnormal, name, hname, hpath⟩ := hproper member hmember
      exact ⟨hfile, name, hname, hnormal.trans hpath⟩
    · intro name hname
      rw [← hnames, List.mem_map] at hname
      obtain ⟨file, hfile, rfl⟩ := hname
      obtain ⟨member, hmember, hpath, hstream⟩ := hfrom file hfile
      subst ht
      exact ⟨member, hmember, (hproper member hmember).isFile, hpath, file.2, hstream, hthere file hfile⟩

end

/-! ## Both -/

/-- Both extractions are confined, refuse what they should and are complete, for every archive, every directory and
wherever they stop. -/
theorem extraction_sound (h : Remote.Host) (fault : Str → Option WriteFault) (mkdir : Except Failure Unit)
    (zip archive : List UInt8) (dir : Listing) :
    Sound artifactPath (h.tarMembers zip) dir ((h.materializeProofInputs fault mkdir zip).on dir) ∧
      Sound assetPath (h.getmembers archive) dir ((h.toAsset.extractProofInputTarInto fault archive).on dir) :=
  ⟨artifact_sound h fault mkdir zip dir, asset_sound h.toAsset fault archive dir⟩

end Release

end Adn
