import LspSession.Log.Config
import LspSession.Proofs.Path
import LspSession.Proofs.Text.Decimal

/-!
# `LspSession.Proofs.Log.UniquePath`: logs of different processes stand side by side

Programs that run at the same time and are told to log to one file would write into each other's
lines. `uniquePath` puts the process id into the name of the file. `uniquePath_place` says that this
changes nothing but the name: the file stays in its directory, the name keeps its stem and its
extension, and different ids give different names. A path that does not end in a file name is left
alone.
-/

set_option autoImplicit false

namespace LspSession.Log

/-! ### The new name -/

/-- The file name that is made of a stem, a process id and an extension, if that is not empty. Both
are put behind a dot. -/
def uniqueName (stem ext : List Char) (pid : Nat) : List Char :=
  stem ++ '.' :: Decimal.digits pid ++ if ext = [] then [] else '.' :: ext

/-- A digit is neither a slash nor a dot, so the `Decimal.digits` of a process id cut neither a path
nor a name. -/
theorem ne_of_mem_digits {pid : Nat} {c : Char} (h : c ∈ Decimal.digits pid) :
    c ≠ '/' ∧ c ≠ '.' := by
  obtain ⟨d, hd, rfl⟩ := Decimal.mem_digits h
  have hall : ∀ d < 10, Decimal.digitChar d ≠ '/' ∧ Decimal.digitChar d ≠ '.' := by decide
  exact hall d hd

/-- Process ids that give the same `uniqueName` are the same, for one stem and one extension. The
digits of a number are those of no other. -/
theorem uniqueName_inj {stem ext : List Char} {p q : Nat} :
    uniqueName stem ext p = uniqueName stem ext q ↔ p = q := by
  constructor
  · intro h
    have hdigits : Decimal.digits p = Decimal.digits q :=
      (List.cons.inj (List.append_cancel_left (List.append_cancel_right h))).2
    -- The digits are read back as the number, so equal digits are those of one number.
    have hread := Decimal.readDigits?_digits p
    rw [hdigits, Decimal.readDigits?_digits, Option.some.injEq] at hread
    exact hread.symm
  · rintro rfl
    rfl

/-- A text without a slash in which not all is dots can be the name of a file. A single character
`c` that is no dot shows it. -/
theorem isName_of_mem {text : List Char} {c : Char} (hmem : c ∈ text) (hdot : c ≠ '.')
    (hslash : '/' ∉ text) : Path.IsName text := by
  refine ⟨?_, ?_, hslash⟩
  · rw [Bool.eq_false_iff, Ne, Path.isIdle_iff]
    rintro (rfl | rfl)
    · cases hmem
    · exact hdot (List.mem_singleton.mp hmem)
  · rintro rfl
    simp [hdot] at hmem

/-- What is made of the parts of a file name can be the name of a file, since it has the digits of a
process id. -/
theorem isName_uniqueName {stem ext : List Char} (hstem : '/' ∉ stem) (hext : '/' ∉ ext)
    (pid : Nat) : Path.IsName (uniqueName stem ext pid) := by
  obtain ⟨d, ds, hdigits⟩ := List.exists_cons_of_ne_nil (Decimal.digits_ne_nil pid)
  have hd : d ∈ Decimal.digits pid := hdigits ▸ List.mem_cons_self
  refine isName_of_mem (c := d) ?_ (ne_of_mem_digits hd).2 ?_
  · simp [uniqueName, hd]
  · have hslash : '/' ∉ Decimal.digits pid := fun hmem => (ne_of_mem_digits hmem).1 rfl
    unfold uniqueName
    split <;> simp [hstem, hext, hslash]

/-- A name that is made of a stem, a process id and an extension has that extension. Its last dot is
the one in front of the extension, which has none of its own. -/
theorem extension_uniqueName (stem : List Char) {ext : List Char} (hne : ext ≠ [])
    (hdot : '.' ∉ ext) (pid : Nat) : Path.extension (uniqueName stem ext pid) = ext := by
  have hcut : Path.splitName (uniqueName stem ext pid) =
      (stem ++ '.' :: Decimal.digits pid, some ext) := by
    rw [uniqueName, if_neg hne]
    exact Path.splitName_eq_iff.mpr (.atDot (by simp) hdot)
  rw [Path.extension, hcut]
  rfl

/-! ### The new path -/

/-- A path with a file name gets the name with the process id where that name stands: behind its
`Path.parent`. -/
theorem uniquePathChars_eq {path name : List Char} (h : Path.fileName? path = some name)
    (pid : Nat) :
    uniquePathChars path pid =
      Path.child (Path.parent path) (uniqueName (Path.stem name) (Path.extension name) pid) := by
  rw [uniquePathChars, h]
  rfl

/-- A path has another file name where another path has its own: they start in the same way, lead to
the same directory, and all other names are the same. -/
structure Renamed (path other name : List Char) : Prop where
  start : (Path.splitStart other).1 = (Path.splitStart path).1
  parent : Path.parent other = Path.parent path
  names : Path.names other = (Path.names path).dropLast ++ [name]
  fileName : Path.fileName? other = some name

/-- A name put behind the path up to the file name takes its place. Parts of the path that say
nothing may be lost on the way, but no name is (`Path.names`). -/
theorem renamed_child (path : List Char) {name : List Char} (hname : Path.IsName name) :
    Renamed path (Path.child (Path.parent path) name) name where
  start := (Path.start_child _ hname).trans (Path.splitStart_parent path).1
  parent := Path.parent_child_parent path hname
  names := by rw [Path.names_child _ hname, Path.names_parent]
  fileName := Path.fileName?_child _ hname

/-- Where the variables name a file and ask for a name of its own, that is where logs go.
`Config.ofVariables` asks for the process id only then. -/
theorem filePath_ofVariables {lookup : String → Option String} {path : String}
    (hfile : lookup "LSP_LOG_FILE" = some path) (hunique : lookup "LSP_LOG_UNIQUE" = some "true")
    (pid : Nat) : (Config.ofVariables lookup pid).filePath = some (uniquePath path pid) := by
  simp [Config.ofVariables, hfile, hunique]

/-- A path without a file name is left alone by `uniquePath`. In any other path the file name is
replaced where it stands (`Renamed`). It is cut at its last dot, if there is one that is not in
front, and the new name is the stem, a dot, and the process id, and behind another dot the
extension, if that is not empty. So the new name has the same extension. Different process ids give
different names, and two processes with the same variables keep different logs. -/
theorem uniquePath_place (path : String) :
    (Path.fileName? path.toList = none → ∀ pid, uniquePath path pid = path) ∧
      ∀ name, Path.fileName? path.toList = some name →
        ∃ stem ext?, Path.Splits name stem ext? ∧
          (∀ pid,
            Renamed path.toList (uniquePath path pid).toList
                (uniqueName stem (ext?.getD []) pid) ∧
              (ext?.getD [] ≠ [] →
                Path.extension (uniqueName stem (ext?.getD []) pid) = ext?.getD [])) ∧
          (∀ p q, Path.fileName? (uniquePath path p).toList =
            Path.fileName? (uniquePath path q).toList ↔ p = q) ∧
          ∀ lookup : String → Option String, lookup "LSP_LOG_FILE" = some path →
            lookup "LSP_LOG_UNIQUE" = some "true" →
              ∀ p q, (Config.ofVariables lookup p).filePath =
                (Config.ofVariables lookup q).filePath ↔ p = q := by
  refine ⟨fun hnone pid => ?_, fun name hname => ?_⟩
  · rw [uniquePath, uniquePathChars, hnone, String.ofList_toList]
  · have hsplits := Path.splits_splitName name
    obtain ⟨hstem, hext, hdot⟩ := hsplits.parts_subset
    -- A file name has no slash, and neither has the stem or the extension that it is cut into.
    have hslash : '/' ∉ name := (Path.isName_of_fileName? hname).noSlash
    have hrenamed (pid : Nat) : Renamed path.toList (uniquePath path pid).toList
        (uniqueName (Path.stem name) (Path.extension name) pid) := by
      rw [uniquePath, String.toList_ofList, uniquePathChars_eq hname]
      exact renamed_child _
        (isName_uniqueName (fun hmem => hslash (hstem hmem)) (fun hmem => hslash (hext hmem)) pid)
    have hinj (p q : Nat) : Path.fileName? (uniquePath path p).toList =
        Path.fileName? (uniquePath path q).toList ↔ p = q := by
      rw [(hrenamed p).fileName, (hrenamed q).fileName, Option.some.injEq, uniqueName_inj]
    refine ⟨Path.stem name, (Path.splitName name).2, hsplits,
      fun pid => ⟨hrenamed pid, fun hne => extension_uniqueName _ hne hdot pid⟩, hinj,
      fun lookup hfile hunique p q => ⟨fun h => (hinj p q).mp ?_, fun h => h ▸ rfl⟩⟩
    rw [filePath_ofVariables hfile hunique, filePath_ofVariables hfile hunique,
      Option.some.injEq] at h
    rw [h]

/-- Variables that ask for a log of its own in a hidden file. The path has parts that say nothing,
which `Path.names` passes over. -/
private def hiddenLog (key : String) : Option String :=
  if key = "LSP_LOG_FILE" then some "./logs//.lsp.session.log/."
  else if key = "LSP_LOG_UNIQUE" then some "true"
  else none

/-- A hidden file, behind parts that say nothing and in front of one, for two processes that read
the same variables. The root of all directories is not a file, and `uniquePath` leaves it alone. -/
theorem uniquePath_place_hidden :
    uniquePath "/" 42 = "/" ∧
      Renamed "./logs//.lsp.session.log/.".toList
        (uniquePath "./logs//.lsp.session.log/." 42).toList ".lsp.session.42.log".toList ∧
      Path.extension ".lsp.session.42.log".toList = "log".toList ∧
      (Config.ofVariables hiddenLog 42).filePath ≠ (Config.ofVariables hiddenLog 43).filePath := by
  refine ⟨(uniquePath_place "/").1 (by decide) 42, ?_⟩
  obtain ⟨stem, ext?, hsplits, hplaced, -, hlogs⟩ :=
    (uniquePath_place "./logs//.lsp.session.log/.").2 ".lsp.session.log".toList (by decide)
  obtain ⟨rfl, rfl⟩ : ".lsp.session".toList = stem ∧ some "log".toList = ext? :=
    Prod.mk.inj (Path.splitName_eq_iff.mpr hsplits)
  have hname : uniqueName ".lsp.session".toList "log".toList 42 = ".lsp.session.42.log".toList := by
    decide +kernel
  obtain ⟨hrenamed, hext⟩ := hplaced 42
  rw [Option.getD_some, hname] at hrenamed hext
  exact ⟨hrenamed, hext (by decide),
    mt (hlogs hiddenLog (by decide) (by decide) 42 43).mp (by decide)⟩

end LspSession.Log
