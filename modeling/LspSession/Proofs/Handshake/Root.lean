import LspSession.Handshake.Program
import LspSession.Proofs.Client.Introduction
import LspSession.Proofs.Text.Utf8
import LspSession.Proofs.Uri

/-!
# `LspSession.Proofs.Handshake.Root`: which directory the address of the root denotes

The program finds the place that its root leads to, and writes the absolute path of that place
behind `file://`. Nothing in the path is escaped. So the address denotes the place if the path holds
nothing but characters of the path of a URI, and only then (`rootUri_denotes`): a space, a bracket
or a letter outside ASCII makes a text that is no URI, a question mark or a number sign cuts the
path short, and a percent sign is taken for the start of an escape (`rootUri_misleads`).
-/

set_option autoImplicit false

namespace LspSession

/-! ### Absolute paths -/

/-- An absolute path starts with a slash, also that of the root, which is the slash alone. In
`rootUri` it stands behind the empty host. -/
theorem Place.encode_absolute (place : Place) :
    Utf8.encode place.absolute = 0x2F :: Utf8.encode ("/".intercalate place) := by
  have hslash : Utf8.encode "/" = [0x2F] := by decide +kernel
  rw [absolute, Utf8.encode_append, hslash]
  rfl

/-- What a path leads to is given by `canonicalize` as the absolute path of a `Place`. Whether the
path goes over links or dots does not show in it. -/
theorem FileTree.exists_place_of_canonicalize {t : FileTree} {directory : Place}
    {path absolute : String} (h : t.canonicalize directory path = .ok absolute) :
    ∃ place : Place, absolute = place.absolute := by
  obtain ⟨-, -, h⟩ := bind_eq_ok_iff.mp h
  obtain ⟨place, -, h⟩ := bind_eq_ok_iff.mp h
  split at h
  · cases h
  · exact ⟨place, (Except.ok.inj h).symm⟩

/-- A single dot leads from a directory to that directory, so the place of any directory may be that
of the root. All that is asked is that the directory exists. -/
theorem FileTree.canonicalize_dot {t : FileTree} {place : Place}
    (h : t.isDirectory place = true) : t.canonicalize place "." = .ok place.absolute := by
  have hcheck : checkText "." = .ok () := rfl
  have hparts : partsOf "." = ["."] := by
    rw [partsOf, String.splitOn, if_neg (by decide), String.splitOnAux, if_neg (by decide),
      if_neg (by decide), String.splitOnAux, if_pos (by decide)]
    rfl
  have hstart : startOf place "." = place := rfl
  have hfollow : t.follow true greatestLinks place ["."] = .ok place := by
    rw [follow, if_neg (by simp [h]), if_pos (by decide), follow]
  -- Where the dot leads must be there, and it is, being a directory.
  have hnode : t.node? place = some .directory := by
    rw [isDirectory] at h
    cases hnode : t.node? place with
    | none =>
      rw [hnode] at h
      cases h
    | some node =>
      rw [hnode] at h
      cases node with
      | directory => rfl
      | file | program | device | link => cases h
  simp only [canonicalize, hcheck, hparts, hstart, hfollow, hnode, bind, Except.bind]
  rfl

/-- Texts that are written as the same bytes are the same, since `Utf8.decode?` reads the text back.
-/
theorem Utf8.encode_injective {first second : String} (h : encode first = encode second) :
    first = second := by
  have hfirst := decode?_encode first
  rw [h, decode?_encode] at hfirst
  exact (Option.some.inj hfirst).symm

namespace Handshake

/-- What the root is found to be is sent as its address `rootUri`, in the member of the request to
initialize that names the root. The address denotes a path if the absolute path of the root spells
one, and then the path that it spells. So it denotes the root itself exactly if the path holds
nothing but characters of the path of a URI (`Uri.isPathChar`), and two roots whose paths do are
never sent as addresses of the same path. -/
theorem rootUri_denotes {s : Surroundings} {path absolute : String}
    (h : s.computer.tree.canonicalize s.directory path = .ok absolute) :
    resolveRoot s (some path) = .ok (some (rootUri absolute)) ∧
      (∀ (c : Client) (options : InitializeOptions), c.state = .uninitialized →
        options.rootUri = some (rootUri absolute) →
        ∃ id members, (c.sendInitialize options).1.outgoing =
            c.outgoing ++ Frame.encode (Request.wire ⟨id, "initialize", some (.object members)⟩) ∧
          Json.member? "rootUri" members = some (.string (rootUri absolute))) ∧
      (∀ target, Uri.DenotesFile (rootUri absolute) target ↔
        Uri.Spelled Uri.isPathChar (Utf8.encode absolute) ∧
          Uri.percentDecode (Utf8.encode absolute) = target) ∧
      (Uri.DenotesFile (rootUri absolute) (Utf8.encode absolute) ↔
        ∀ b ∈ Utf8.encode absolute, Uri.isPathChar b = true) ∧
      ∀ directory path' other target, s.computer.tree.canonicalize directory path' = .ok other →
        (∀ b ∈ Utf8.encode absolute, Uri.isPathChar b = true) →
        (∀ b ∈ Utf8.encode other, Uri.isPathChar b = true) →
        Uri.DenotesFile (rootUri absolute) target → Uri.DenotesFile (rootUri other) target →
        absolute = other := by
  obtain ⟨place, rfl⟩ := FileTree.exists_place_of_canonicalize h
  refine ⟨?_, fun c options hstate hroot => ?_, fun target => ?_, ?_, ?_⟩
  · rw [resolveRoot, h]
  · obtain ⟨-, hmember, -⟩ := (Introduction.of c.config options).member?_members
    refine ⟨.integer c.nextId, (Introduction.of c.config options).members, ?_, ?_⟩
    -- The address is a member of the parameters that the client frames.
    · rw [c.sendInitialize_eq hstate options, Client.initializeParams_eq]
      rfl
    · rw [hmember, Introduction.of, hroot]
      rfl
  · exact Uri.denotesFile_iff place.encode_absolute
  · exact Uri.denotesFile_self_iff place.encode_absolute
  · intro directory path' other target hother hplain hplain' hdenotes hdenotes'
    obtain ⟨place', rfl⟩ := FileTree.exists_place_of_canonicalize hother
    -- Both addresses denote the path that they are written from, and these are equal bytes.
    have htarget := (Uri.denotesFile_iff_of_forall place.encode_absolute hplain).mp hdenotes
    have htarget' := (Uri.denotesFile_iff_of_forall place'.encode_absolute hplain').mp hdenotes'
    exact Utf8.encode_injective (htarget.trans htarget'.symm)

/-- A computer with some directories, of which `place` is the one that the program is started in.
Their names have letters that an address must escape, and one is what another spells when it is read
as an address. -/
private def surroundings (place : Place) : Surroundings where
  computer := ⟨⟨[(["w"], .directory), (["w", "c++@1.0"], .directory), (["w", "a%41"], .directory),
    (["w", "aA"], .directory), (["w", "my app"], .directory), (["usr"], .directory),
    (["usr", "bin"], .directory), (["usr", "bin", "["], .file [] true)]⟩, 1⟩
  directory := place
  environment := []
  ownId := 7

/-- The address of a directory with a plain name denotes the directory. A plus sign, an at sign and
a dot are characters of the path of a URI. -/
theorem rootUri_denotes_plain :
    (surroundings ["w", "c++@1.0"]).computer.tree.canonicalize ["w", "c++@1.0"] "." =
        .ok "/w/c++@1.0" ∧
      resolveRoot (surroundings ["w", "c++@1.0"]) (some ".") = .ok (some "file:///w/c++@1.0") ∧
      Uri.DenotesFile "file:///w/c++@1.0" (Utf8.encode "/w/c++@1.0") := by
  have hroot : (surroundings ["w", "c++@1.0"]).computer.tree.canonicalize
      (surroundings ["w", "c++@1.0"]).directory "." = .ok "/w/c++@1.0" :=
    FileTree.canonicalize_dot rfl
  obtain ⟨hresolved, -, -, hself, -⟩ := rootUri_denotes hroot
  exact ⟨hroot, hresolved, hself.mpr (by decide +kernel)⟩

/-- The address of a path with a bracket is no URI, and two directories, `a%41` and `aA`, are sent
as addresses of the same path. -/
theorem rootUri_misleads :
    resolveRoot (surroundings ["usr", "bin"]) (some "[") = .ok (some "file:///usr/bin/[") ∧
      Uri.isReference "file:///usr/bin/[" = false ∧
      ¬ Uri.DenotesFile "file:///usr/bin/[" (Utf8.encode "/usr/bin/[") ∧
      resolveRoot (surroundings ["w", "a%41"]) (some ".") = .ok (some "file:///w/a%41") ∧
      resolveRoot (surroundings ["w", "aA"]) (some ".") = .ok (some "file:///w/aA") ∧
      Uri.DenotesFile "file:///w/a%41" (Utf8.encode "/w/aA") ∧
      Uri.DenotesFile "file:///w/aA" (Utf8.encode "/w/aA") := by
  have hplace (place : Place) (h : (surroundings place).computer.tree.isDirectory place = true) :
      resolveRoot (surroundings place) (some ".") = .ok (some (rootUri place.absolute)) := by
    simp only [resolveRoot, surroundings] at h ⊢
    rw [FileTree.canonicalize_dot h]
  have hbracket : (surroundings ["usr", "bin"]).computer.tree.canonicalize ["usr", "bin"] "[" =
      .ok "/usr/bin/[" := by
    have hparts : FileTree.partsOf "[" = ["["] := by
      rw [FileTree.partsOf, String.splitOn, if_neg (by decide), String.splitOnAux,
        if_neg (by decide), if_neg (by decide), String.splitOnAux, if_pos (by decide)]
      rfl
    have hstart : FileTree.startOf ["usr", "bin"] "[" = ["usr", "bin"] := rfl
    have hfollow : (surroundings ["usr", "bin"]).computer.tree.follow true FileTree.greatestLinks
        ["usr", "bin"] ["["] = .ok ["usr", "bin", "["] := by
      rw [FileTree.follow, if_neg (by decide), if_neg (by decide), if_neg (by decide),
        if_neg (by decide)]
      show FileTree.follow _ _ _ _ [] = _
      rw [FileTree.follow]
      rfl
    rw [FileTree.canonicalize, hparts, hstart, hfollow]
    rfl
  have hinvalid : Uri.isReference "file:///usr/bin/[" = false := by decide +kernel
  have hescape : Uri.DenotesFile "file:///w/a%41" (Utf8.encode "/w/aA") :=
    ⟨Utf8.encode "/w/a%41", by rfl, by decide +kernel⟩
  have hletter : Uri.DenotesFile "file:///w/aA" (Utf8.encode "/w/aA") :=
    ⟨Utf8.encode "/w/aA", by rfl, by decide +kernel⟩
  refine ⟨?_, hinvalid, ?_, hplace _ rfl, hplace _ rfl, hescape, hletter⟩
  · rw [resolveRoot]
    rw [show (surroundings ["usr", "bin"]).directory = ["usr", "bin"] from rfl, hbracket]
    rfl
  · rintro ⟨spelling, hread, -⟩
    rw [Uri.isReference, hread] at hinvalid
    cases hinvalid

end Handshake

end LspSession
