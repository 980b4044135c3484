import Adn.ArchiveExtraction
/-!
# Two readings of one archive

The remote verifier lets a later member of a name replace an earlier one, and the release
asset verifier refuses the second. The bundles that pass the first and are refused by the
second are those with two members of one name (`extractors_agree_iff`).
-/

open Lib

namespace Adn

namespace Release

open Asset (Listing Member slash normpath outputName Extraction)

/-! ## Paths -/

/-- The path of an expected file is that of no other one. -/
theorem outputName_memberPath {name : Str} (hname : name ∈ proofInputFiles) :
    outputName (Remote.Host.memberPath name) = some name := by
  have hslash : slash ∈ Remote.Host.memberPath name := by
    rw [Remote.Host.memberPath]
    exact List.mem_append_left _ (by decide)
  have hnot : Remote.Host.memberPath name ∉ proofInputFiles := by
    intro hmem
    exact (units_proofInputFiles _ hmem slash hslash).2.1 rfl
  unfold outputName
  rw [if_neg hnot, Remote.Host.memberPath, List.drop_left, if_pos ⟨List.isPrefixOf_iff_prefix.2 (List.prefix_append _ _), hname⟩]

theorem memberPath_inj {a b : Str} : Remote.Host.memberPath a = Remote.Host.memberPath b ↔ a = b := by
  rw [Remote.Host.memberPath, Remote.Host.memberPath, List.append_right_inj]

/-! ## The release asset -/

/-- A member that the asset verifier extracts, if it has extracted no file of that name. -/
structure Extractable (member : Member) (file : Str × List UInt8) : Prop where
  rooted : (slashed member.name).head? ≠ some slash
  normal : normpath (slashed member.name) = slashed member.name
  isFile : member.isFile = true
  named : outputName (slashed member.name) = some file.1
  stream : member.stream = some (some file.2)

/-- The names and the directory after some files. -/
def extractionOf (files : List (Str × List UInt8)) : Extraction :=
  ⟨files.map (·.1), files.map fun file => (file.1, .file file.2)⟩

section
variable {members : List Member} {member : Member} {done files : List (Str × List UInt8)} {e : Extraction}

theorem lookup_extraction {name : Str} :
    (extractionOf files).dir.lookup name = none ↔ name ∉ files.map (·.1) := by
  rw [extractionOf, List.lookup_eq_none_iff]
  simp only [List.mem_map, forall_exists_index, and_imp, forall_apply_eq_imp_iff₂, bne_iff_ne, ne_eq, not_exists, not_and]
  exact forall₂_congr fun file _ => not_congr eq_comm

theorem extractMember_of : Asset.extractMember (extractionOf done) member = .ok e ↔
    ∃ file, Extractable member file ∧ file.1 ∉ done.map (·.1) ∧ e = extractionOf (done ++ [file]) := by
  rw [extractMember_ok]
  constructor
  · rintro ⟨output, bytes, ⟨hrooted, hnormal, hfile, hnamed, hnew, hstream, -⟩, rfl⟩
    exact ⟨(output, bytes), ⟨hrooted, hnormal, hfile, hnamed, hstream⟩, hnew, by simp [extractionOf]⟩
  · rintro ⟨⟨output, bytes⟩, ⟨hrooted, hnormal, hfile, hnamed, hstream⟩, hnew, rfl⟩
    exact ⟨output, bytes, ⟨hrooted, hnormal, hfile, hnamed, hnew, hstream, lookup_extraction.2 hnew⟩, by simp [extractionOf]⟩

/-- The loop extracts every member, each to a name of its own. -/
theorem extractMembers_of (hdone : (done.map (·.1)).Nodup) :
    members.foldlM Asset.extractMember (extractionOf done) = .ok e ↔
      ∃ files, List.Forall₂ Extractable members files ∧ ((done ++ files).map (·.1)).Nodup ∧ e = extractionOf (done ++ files) := by
  induction members generalizing done with
  | nil =>
    rw [List.foldlM_nil, pure_ok]
    constructor
    · rintro rfl
      exact ⟨[], .nil, by simpa using hdone, by simp⟩
    · rintro ⟨files, hfiles, -, rfl⟩
      cases hfiles
      simp
  | cons member members ih =>
    have hsnoc : ∀ file : Str × List UInt8, file.1 ∉ done.map (·.1) → ((done ++ [file]).map (·.1)).Nodup := by
      intro file hnew
      rw [List.map_append, List.map_cons, List.map_nil, List.nodup_append]
      refine ⟨hdone, List.nodup_singleton _, ?_⟩
      intro name hname name' hname' heq
      rw [List.mem_singleton] at hname'
      exact hnew (hname' ▸ heq ▸ hname)
    rw [List.foldlM_cons, bind_ok]
    constructor
    · rintro ⟨e', he', hrest⟩
      obtain ⟨file, hextract, hnew, rfl⟩ := extractMember_of.1 he'
      obtain ⟨files, hfiles, hnodup, rfl⟩ := (ih (hsnoc file hnew)).1 hrest
      exact ⟨file :: files, .cons hextract hfiles, by simpa using hnodup, by simp⟩
    · rintro ⟨_, hfiles, hnodup, rfl⟩
      cases hfiles with
      | @cons _ file _ files hextract hfiles =>
        have hnew : file.1 ∉ done.map (·.1) := by
          rw [List.map_append, List.map_cons] at hnodup
          intro hmem
          exact (List.nodup_append.1 hnodup).2.2 _ hmem _ List.mem_cons_self rfl
        refine ⟨_, extractMember_of.2 ⟨file, hextract, hnew, rfl⟩, (ih (hsnoc file hnew)).2 ⟨files, hfiles, ?_, ?_⟩⟩
        · simpa using hnodup
        · simp

/-- The asset verifier accepts an archive if its members are extractable, to different names, and no expected file is
missing. -/
theorem asset_accepts_iff {h : Asset.Host} {archive : List UInt8} {listing : Listing}
    (hmembers : h.getmembers archive = some members) : h.extractProofInputTar archive = .ok listing ↔
      ∃ files, List.Forall₂ Extractable members files ∧ (files.map (·.1)).Nodup ∧
        (∀ name ∈ proofInputFiles, name ∈ files.map (·.1)) ∧ listing = (extractionOf files).dir := by
  have hloop : ∀ e, members.foldlM Asset.extractMember ⟨[], []⟩ = .ok e ↔ ∃ files, List.Forall₂ Extractable members files ∧
      (files.map (·.1)).Nodup ∧ e = extractionOf files := by
    intro e
    have hof : members.foldlM Asset.extractMember (extractionOf []) = .ok e ↔ _ := extractMembers_of List.nodup_nil
    simp only [List.nil_append] at hof
    exact hof
  unfold Asset.Host.extractProofInputTar
  rw [hmembers]
  dsimp only
  simp only [bind_ok, hloop, Release.require_ok, decide_eq_true_eq, sorted_eq_nil, List.filter_eq_nil_iff, not_not, pure_ok]
  constructor
  · rintro ⟨_, ⟨files, hfiles, hnodup, rfl⟩, _, hmissing, rfl⟩
    exact ⟨files, hfiles, hnodup, hmissing, rfl⟩
  · rintro ⟨files, hfiles, hnodup, hmissing, rfl⟩
    exact ⟨_, ⟨files, hfiles, hnodup, rfl⟩, (), hmissing, rfl⟩

/-- Of members that are extracted to different names, no two have one path. -/
theorem paths_nodup (hfiles : List.Forall₂ Extractable members files) (hnodup : (files.map (·.1)).Nodup) :
    (members.map fun member => slashed member.name).Nodup := by
  induction hfiles with
  | nil => exact List.nodup_nil
  | @cons member file members files hextract hrest ih =>
    rw [List.map_cons, List.nodup_cons] at hnodup ⊢
    refine ⟨?_, ih hnodup.2⟩
    intro hmem
    obtain ⟨other, hother, hpath⟩ := List.mem_map.1 hmem
    obtain ⟨file', hfile', hextract'⟩ := mem_left hrest hother
    have hname : some file'.1 = some file.1 := by
      rw [← hextract'.named, hpath, hextract.named]
    rw [Option.some.injEq] at hname
    exact hnodup.1 (hname ▸ List.mem_map_of_mem hfile')

/-! ## The artifact -/

/-- A member that passes the remote verifier can be extracted as what was read of it, if it is the only one of its
path. -/
theorem extractable_of_proper {file : Str × List UInt8} (hproper : Proper member)
    (hpath : slashed member.name = Remote.Host.memberPath file.1) (hname : file.1 ∈ proofInputFiles)
    (hstream : member.stream = some (some file.2)) : Extractable member file where
  rooted := hproper.rooted
  normal := hproper.normal
  isFile := hproper.isFile
  named := by rw [hpath, outputName_memberPath hname]
  stream := hstream

end

theorem exists_forall₂ {α β : Type} {R : α → β → Prop} {xs : List α} (h : ∀ x ∈ xs, ∃ y, R x y) :
    ∃ ys, List.Forall₂ R xs ys := by
  induction xs with
  | nil => exact ⟨[], .nil⟩
  | cons x xs ih =>
    obtain ⟨y, hy⟩ := h x List.mem_cons_self
    obtain ⟨ys, hys⟩ := ih fun z hz => h z (List.mem_cons_of_mem x hz)
    exact ⟨y :: ys, .cons hy hys⟩

theorem map_eq_of_forall₂ {α β γ : Type} {R : α → β → Prop} {f : α → γ} {g : β → γ} {xs : List α} {ys : List β}
    (h : List.Forall₂ R xs ys) (hR : ∀ x y, R x y → f x = g y) : xs.map f = ys.map g := by
  induction h with
  | nil => rfl
  | cons hxy _ ih => rw [List.map_cons, List.map_cons, hR _ _ hxy, ih]

theorem lookup_of_mem {α : Type} {xs : List (Str × α)} {k : Str} {v : α} (hnodup : (xs.map (·.1)).Nodup)
    (h : (k, v) ∈ xs) : xs.lookup k = some v := by
  cases hlookup : xs.lookup k with
  | none =>
    rw [List.lookup_eq_none_iff] at hlookup
    simpa using hlookup _ h
  | some w =>
    have hsame := List.inj_on_of_nodup_map hnodup (mem_of_lookup hlookup) h rfl
    rw [Prod.mk.injEq] at hsame
    rw [hsame.2]

section
variable {h : Remote.Host} {zip archive : List UInt8} {members : List Member} {extracted : List (Str × List UInt8)}

/-- If no two members have one path, each can be extracted as a file that was returned. -/
theorem extractable_members (hproper : ∀ member ∈ members, Proper member) (hnames : extracted.map (·.1) = proofInputFiles)
    (hfrom : ∀ file ∈ extracted, ∃ member ∈ members, slashed member.name = Remote.Host.memberPath file.1 ∧
      member.stream = some (some file.2))
    (hnodup : (members.map fun member => slashed member.name).Nodup) {member : Member} (hmember : member ∈ members) :
    ∃ file, Extractable member file ∧ slashed member.name = Remote.Host.memberPath file.1 ∧ file ∈ extracted := by
  obtain ⟨name, hname, hpath⟩ := (hproper member hmember).expected
  have hreturned : name ∈ extracted.map (·.1) := hnames ▸ hname
  obtain ⟨file, hfile, rfl⟩ := List.mem_map.1 hreturned
  obtain ⟨other, hother, hotherPath, hstream⟩ := hfrom file hfile
  obtain rfl := List.inj_on_of_nodup_map hnodup hother hmember (hotherPath.trans hpath.symm)
  exact ⟨file, extractable_of_proper (hproper _ hmember) hpath hname hstream, hpath, hfile⟩

/-- What passes the remote verifier passes the release asset verifier, with the same contents, exactly if no two
members have one path. -/
theorem extractors_agree_iff (htar : h.tarPayload zip = some archive) (hmembers : h.getmembers archive = some members)
    (hx : h.extractProofInputTar zip = .ok extracted) :
    (∃ listing, h.toAsset.extractProofInputTar archive = .ok listing ∧
      ∀ name ∈ proofInputFiles, ∃ bytes, (name, bytes) ∈ extracted ∧ listing.lookup name = some (.file bytes)) ↔
    (members.map fun member => slashed member.name).Nodup := by
  constructor
  · rintro ⟨listing, haccepted, -⟩
    obtain ⟨files, hfiles, hnodup, -⟩ := (asset_accepts_iff hmembers).1 haccepted
    exact paths_nodup hfiles hnodup
  · intro hnodup
    obtain ⟨ms, hms, hproper, hnames, hfrom⟩ := extracted_from_members hx
    have hsame : h.tarMembers zip = some members := by
      rw [Remote.Host.tarMembers, htar]
      exact hmembers
    obtain rfl : ms = members := Option.some.inj (hms.symm.trans hsame)
    obtain ⟨files, hfiles⟩ := exists_forall₂ fun member hmember => extractable_members hproper hnames hfrom hnodup hmember
    have hpaths : ms.map (fun member => slashed member.name) = files.map fun file => Remote.Host.memberPath file.1 :=
      map_eq_of_forall₂ hfiles fun _ _ hR => hR.2.1
    have hdistinct : (files.map (·.1)).Nodup := by
      rw [hpaths] at hnodup
      apply List.Nodup.of_map Remote.Host.memberPath
      rwa [List.map_map]
    have hall : ∀ name ∈ proofInputFiles, ∃ bytes, (name, bytes) ∈ files ∧ (name, bytes) ∈ extracted := by
      intro name hname
      rw [← hnames] at hname
      obtain ⟨file, hfile, rfl⟩ := List.mem_map.1 hname
      obtain ⟨member, hmember, hpath, -⟩ := hfrom file hfile
      obtain ⟨found, hfound, -, hfoundPath, hextracted⟩ := mem_left hfiles hmember
      have heq : found.1 = file.1 := memberPath_inj.1 (hfoundPath.symm.trans hpath)
      exact ⟨found.2, heq ▸ hfound, heq ▸ hextracted⟩
    refine ⟨(extractionOf files).dir, (asset_accepts_iff hmembers).2 ⟨files, hfiles.imp fun _ _ hR => hR.1, hdistinct, ?_, rfl⟩,
      ?_⟩
    · intro name hname
      obtain ⟨bytes, hmem, -⟩ := hall name hname
      exact List.mem_map_of_mem hmem
    · intro name hname
      obtain ⟨bytes, hmem, hextracted⟩ := hall name hname
      refine ⟨bytes, hextracted, ?_⟩
      apply lookup_of_mem
      · rw [extractionOf, List.map_map]
        exact hdistinct
      · exact List.mem_map_of_mem (f := fun file : Str × List UInt8 => (file.1, Asset.Entry.file file.2)) hmem

end

end Release

/-! ### Six members, and a seventh -/

namespace Sample

open Release

/-- An artifact with these expected files, in this order. -/
def hostOf (names : List Str) : Remote.Host := { remoteHost with getmembers _ := some (names.map confirmedMember) }

theorem confirmed_slashed {name : Str} (hname : name ∈ proofInputFiles) :
    slashed (confirmedMember name).name = Remote.Host.memberPath name := (memberPath_normal hname).1

theorem hostOf_payload (names : List Str) : (hostOf names).tarPayload [] = some [] := by
  simp [Remote.Host.tarPayload, hostOf, remoteHost, Except.toOption]

/-- The remote verifier accepts it if no file is missing. -/
theorem hostOf_extracted {names : List Str} (hexpected : ∀ name ∈ names, name ∈ proofInputFiles)
    (hall : ∀ name ∈ proofInputFiles, name ∈ names) : (hostOf names).extractProofInputTar [] = .ok confirmedInputs := by
  refine bind_ok.2 ⟨(), Release.require_ok.2 (by simp), bind_ok.2 ⟨[], rfl, ?_⟩⟩
  refine bind_ok.2 ⟨_, remote_members hexpected [], mapM_map fun name hname => ?_⟩
  unfold Remote.Host.readMember
  rw [List.append_nil, ← List.map_reverse, lookup_memberPath (List.mem_reverse.mpr (hall name hname))]
  rfl

/-- The archive with one member for each file is read alike. -/
theorem six_members_agree : ∃ listing, (hostOf proofInputFiles).toAsset.extractProofInputTar [] = .ok listing ∧
    ∀ name ∈ proofInputFiles, ∃ bytes, (name, bytes) ∈ confirmedInputs ∧ listing.lookup name = some (.file bytes) := by
  apply (extractors_agree_iff (hostOf_payload _) rfl (hostOf_extracted (fun _ hname => hname) fun _ hname => hname)).2
  have hpaths : (proofInputFiles.map confirmedMember).map (fun member => slashed member.name) =
      proofInputFiles.map Remote.Host.memberPath := by
    rw [List.map_map]
    exact List.map_congr_left fun name hname => confirmed_slashed hname
  rw [hpaths]
  exact List.Nodup.map (fun _ _ heq => memberPath_inj.1 heq) (by simp [proofInputFiles])

def doubledNames : List Str := proofInputFiles ++ [Str.ofString "deployment_manifest.json"]

/-- The archive with a second manifest is accepted by the one and refused by the other. -/
theorem doubled_member_refused : ¬∀ (h : Remote.Host) (zip archive : List UInt8) (extracted : List (Str × List UInt8)),
    h.tarPayload zip = some archive → h.extractProofInputTar zip = .ok extracted →
    ∃ listing, h.toAsset.extractProofInputTar archive = .ok listing ∧
      ∀ name ∈ proofInputFiles, ∃ bytes, (name, bytes) ∈ extracted ∧ listing.lookup name = some (.file bytes) := by
  intro hagree
  have hmanifest : Str.ofString "deployment_manifest.json" ∈ proofInputFiles := List.mem_cons_self
  have hexpected : ∀ name ∈ doubledNames, name ∈ proofInputFiles := by
    intro name hname
    rcases List.mem_append.1 hname with hname | hname
    · exact hname
    · rw [List.mem_singleton] at hname
      exact hname ▸ hmanifest
  obtain ⟨listing, haccepted, -⟩ := hagree (hostOf doubledNames) [] [] confirmedInputs (hostOf_payload _)
    (hostOf_extracted hexpected fun _ hname => List.mem_append_left _ hname)
  obtain ⟨files, hfiles, hnodup, -⟩ := (asset_accepts_iff rfl).1 haccepted
  have hdistinct := paths_nodup hfiles hnodup
  rw [doubledNames, List.map_append, List.map_append, List.nodup_append] at hdistinct
  exact hdistinct.2.2 _ (List.mem_map_of_mem (List.mem_map_of_mem hmanifest)) _ List.mem_cons_self rfl

end Sample

end Adn
