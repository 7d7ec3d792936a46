import Reckoner.Batch.ResultsPath
import Reckoner.Files.Archive
import Reckoner.Proofs.Files.Folder
import Reckoner.Proofs.Files.Path

/-!
# Results beside their input

The name of the results is that of the input with underscores for its inner points, and an ending of
twelve characters behind it (`nameOf_eq`, `length_nameOf`). So the results of an input go into the
same directory under another name (`ofInput_underscored`), those of an input that can be read are at
another place (`apart_of_ofInput`), and writing them leaves the input as it was.
-/

namespace Reckoner.ResultsPath

/-! ## Names -/

/-- What is left when suffixes are cut off one after the other depends on their lengths only. -/
theorem cut_eq_take (suffixes : List (List Char)) (name : List Char) :
    suffixes.foldl (fun rest suffix => rest.take (rest.length - suffix.length)) name =
      name.take (name.length - suffixes.flatten.length) := by
  induction suffixes generalizing name with
  | nil => exact List.take_length.symm
  | cons suffix others ih =>
    rw [List.foldl_cons, ih, List.take_take, List.length_take, List.flatten_cons,
      List.length_append]
    congr 1
    omega

/-- Cutting off the suffixes of a name leaves its stem. -/
theorem stem_eq (name : List Char) : stem name = Path.stemOf name := by
  have whole := Path.stemOf_append_suffixes name
  have length := congrArg List.length whole
  rw [List.length_append] at length
  have left : name.length - (Path.suffixesOf name).flatten.length =
      (Path.stemOf name).length := by omega
  calc stem name
    _ = name.take (Path.stemOf name).length := left ▸ cut_eq_take (Path.suffixesOf name) name
    _ = (Path.stemOf name ++ (Path.suffixesOf name).flatten).take (Path.stemOf name).length := by
      rw [whole]
    _ = Path.stemOf name := List.take_left

/-- What comes behind the points in front of a name, with underscores for its points; the points of
a name that ends with one stay. -/
def underscored (name : List Char) : List Char :=
  if Path.endsWithPoint name then Path.undotted name
  else (Path.undotted name).map fun char => if char = '.' then '_' else char

/-- The name of the results is that of the input with underscores for its inner points, in front of
the ending. -/
theorem nameOf_eq (name : List Char) :
    nameOf name = Path.leadingPoints name ++ underscored name ++ ending := by
  rw [nameOf, stem_eq, Path.stemOf, safeSuffix, underscored]
  cases pointed : Path.endsWithPoint name with
  | true =>
    rw [if_pos rfl, if_pos rfl, Path.suffixesOf_of_endsWithPoint pointed, List.flatten_nil,
      List.map_nil, List.append_nil, Path.leadingPoints_append_undotted]
  | false =>
    -- There is no point in front of the first one, so it makes no difference where they begin to be
    -- replaced.
    have front : ((Path.undotted name).takeWhile (· != '.')).map
        (fun char => if char = '.' then '_' else char) =
          (Path.undotted name).takeWhile (· != '.') := by
      refine (List.map_congr_left fun char member => ?_).trans (List.map_id _)
      have passed : (char != '.') = true :=
        List.all_eq_true.mp (List.all_takeWhile (p := fun char => char != '.')) char member
      exact if_neg (bne_iff_ne.mp passed)
    have parts := congrArg (List.map fun char => if char = '.' then '_' else char)
      (List.takeWhile_append_dropWhile (p := (· != '.')) (l := Path.undotted name))
    rw [List.map_append, front] at parts
    rw [if_neg Bool.false_ne_true, if_neg Bool.false_ne_true, Path.flatten_suffixesOf pointed,
      List.append_assoc (Path.leadingPoints name), parts]

/-- The name of the results is twelve characters longer than the name of the input. -/
theorem length_nameOf (name : List Char) : (nameOf name).length = name.length + 12 := by
  have joined : (underscored name).length = (Path.undotted name).length := by
    rw [underscored]
    split
    · rfl
    · exact List.length_map _
  have whole := congrArg List.length (Path.leadingPoints_append_undotted name)
  have ended : ending.length = 12 := by decide
  rw [List.length_append] at whole
  rw [nameOf_eq, List.length_append, List.length_append, joined, ended, whole]

/-- The results are a text file. -/
theorem suffixOf_nameOf (name : List Char) : Path.suffixOf (nameOf name) = Archive.textSuffix := by
  have turned : (nameOf name).reverse =
      "txt.stluser_".toList ++ (stem name ++ safeSuffix name).reverse := by
    rw [nameOf, List.reverse_append]
    rfl
  have after : ((nameOf name).reverse.takeWhile (· != '.')).reverse = "txt".toList := by
    rw [turned]
    rfl
  have long : ¬(nameOf name).length ≤ "txt".toList.length + 1 := by
    rw [length_nameOf, show "txt".toList.length = 3 from rfl]
    omega
  rw [Path.suffixOf, after]
  simp only [long, decide_false]
  rfl

/-- The results have another name than the input. -/
theorem nameOf_ne (name : List Char) : name ≠ nameOf name := by
  intro same
  have longer := length_nameOf name
  rw [← same] at longer
  omega

/-- The name of the results is not the one that leads upward. -/
theorem nameOf_ne_upward (name : List Char) : nameOf name ≠ ['.', '.'] := by
  intro upward
  have longer := length_nameOf name
  rw [upward] at longer
  exact absurd longer (by simp)

/-! ## Places -/

/-- The results go where the input is, under the name made of the last name of the input. -/
theorem ofInput_eq_ok {input output : Path} (known : ofInput input = .ok output) :
    ∃ front name, input.parts = front ++ [name] ∧
      output = ⟨input.root, front ++ [nameOf name]⟩ := by
  rw [ofInput] at known
  split at known
  · cases known
  · rename_i named
    cases known
    rcases input.parts.eq_nil_or_concat with empty | ⟨front, name, parts⟩
    · rw [Path.name, empty] at named
      exact absurd rfl named
    · rw [List.concat_eq_append] at parts
      have last : input.name = name := by
        rw [Path.name, parts, List.getLast?_concat, Option.getD_some]
      refine ⟨front, name, parts, ?_⟩
      rw [Path.withName, last, parts, List.dropLast_concat]

/-- The results of an input with a last name go into the same directory. Their name is that of the
input, point by point in front of the first other character, with underscores for the points behind,
and the ending behind it all; a name that ends with a point has no suffixes and keeps its points.
What is cut off in between are exactly the suffixes, and the stem is left. So the name grows by
twelve characters, the results are at another path than the input, and they are a text file. -/
theorem ofInput_underscored (path : Path) (named : path.name ≠ []) :
    let name := Path.leadingPoints path.name ++ underscored path.name ++ ending
    let output := path.withName name
    ofInput path = .ok output ∧ output.parent = path.parent ∧ output.name = name ∧
      Path.leadingPoints path.name ++ Path.undotted path.name = path.name ∧
      (Path.endsWithPoint path.name = true → path.suffixes = []) ∧
      stem path.name = Path.stemOf path.name ∧
      Path.stemOf path.name ++ path.suffixes.flatten = path.name ∧
      output.name.length = path.name.length + 12 ∧ output ≠ path ∧
      output.suffix = Archive.textSuffix := by
  intro name output
  have nonempty : ¬path.name.isEmpty = true := fun empty => named (List.isEmpty_iff.mp empty)
  have same : nameOf path.name = name := nameOf_eq path.name
  have known : ofInput path = .ok output := by rw [ofInput, if_neg nonempty, same]
  have shown : output.name = name := Path.name_withName path name
  refine ⟨known, Path.parent_withName path name, shown,
    Path.leadingPoints_append_undotted path.name, Path.suffixesOf_of_endsWithPoint,
    stem_eq path.name, Path.stemOf_append_suffixes path.name, ?_, ?_, ?_⟩
  · rw [shown, ← same, length_nameOf]
  · intro unchanged
    rw [unchanged, ← same] at shown
    exact nameOf_ne path.name shown
  · rw [Path.suffix, shown, ← same, suffixOf_nameOf]

/-- A hidden file with two points in front, an empty suffix and two others. -/
def hiddenInput : Path := ⟨.slash, ["logs".toList, "..run..tar.xz".toList]⟩

/-- A file with a point behind its name. -/
def pointedInput : Path := ⟨.here, ["a.b.".toList]⟩

/-- The hidden file keeps the points in front of its name, the other one all of them. -/
theorem ofInput_underscored_hidden :
    hiddenInput.name ≠ [] ∧ pointedInput.name ≠ [] ∧
      ofInput hiddenInput = .ok ⟨.slash, ["logs".toList, "..run__tar_xz_results.txt".toList]⟩ ∧
      ofInput pointedInput = .ok ⟨.here, ["a.b._results.txt".toList]⟩ := by
  have hiddenNamed : hiddenInput.name ≠ [] := by decide
  have pointedNamed : pointedInput.name ≠ [] := by decide
  exact ⟨hiddenNamed, pointedNamed, (ofInput_underscored hiddenInput hiddenNamed).1,
    (ofInput_underscored pointedInput pointedNamed).1⟩

/-- The results of an input that can be read are apart from it. -/
theorem apart_of_ofInput {folder emptied : Folder} {input output : Path} {entry : Entry}
    {bytes : Bytes} (known : ofInput input = .ok output) (shown : folder.read input = .ok entry)
    (writable : folder.write output bytes = .ok emptied) : folder.Apart input output := by
  obtain ⟨front, name, parts, rfl⟩ := ofInput_eq_ok known
  obtain ⟨inputPlace, inputNamed, free⟩ := Folder.read_eq_ok shown
  obtain ⟨outputPlace, outputNamed, -, -⟩ := Folder.write_eq_ok writable
  refine ⟨inputPlace, outputPlace, inputNamed, outputNamed, ?_⟩
  -- Both ways lead through the same directory; only their last steps differ.
  have inputWalked := Folder.walk_of_place inputNamed
  have outputWalked := Folder.walk_of_place outputNamed
  rw [parts] at inputWalked
  obtain ⟨directory, inputFront, inputLast⟩ := Folder.walk_append inputWalked
  obtain ⟨other, outputFront, outputLast⟩ := Folder.walk_append outputWalked
  have same : other = directory := by
    have onward : folder.walk ⟨input.root, front ++ [nameOf name]⟩ (Folder.startOf input) front =
        .ok directory := Folder.walk_of_directories (fun _ kept => kept) inputFront
    exact Except.ok.inj (outputFront.symm.trans onward)
  obtain ⟨isDirectory, inputStep⟩ := Folder.walk_singleton inputLast
  obtain ⟨-, outputStep⟩ := Folder.walk_singleton outputLast
  rcases inputStep with ⟨-, above⟩ | ⟨-, rfl⟩
  · rw [Folder.isDirectory_above isDirectory above] at free
    cases free
  rcases outputStep with ⟨upward, -⟩ | ⟨-, rfl⟩
  · exact absurd upward (nameOf_ne_upward name)
  rw [same, Bool.eq_false_iff]
  intro leads
  have whole := (List.isPrefixOf_iff_prefix.mp leads).eq_of_length (by simp)
  exact nameOf_ne name (List.singleton_inj.mp (List.append_cancel_left whole))

end Reckoner.ResultsPath
