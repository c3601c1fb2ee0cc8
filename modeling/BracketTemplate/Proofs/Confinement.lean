/-
# Components stay in their folder

The path that is loaded for a component is put together from three parts:

| part | where it comes from | what it is made of |
| --- | --- | --- |
| folder | settings | anything, without the slashes at its end |
| name | an argument of a directive | one body character or more, no colon |
| extension | settings | a dot and one character or more, no slash |

No body character is a slash, so what stands behind the folder is the name of a
file in it (`isFileName_of_references`).  It may start with dots, but with the
extension it has three characters at least, so it is neither of the two names that
lead elsewhere.  With the extension taken off again it is the name of the
component, so no two components share a path.
-/

import BracketTemplate.Proofs.Joining
import BracketTemplate.Proofs.Record

namespace BracketTemplate

namespace SourcePath

/-- Whether a text can name a file in a folder. -/
def IsFileName (file : String) : Prop := '/' ∉ file.toList ∧ file ≠ "." ∧ file ≠ ".."

/-- Whether a path is that of a file in a folder, not of one further down or outside. -/
def InFolder (folder path : String) : Prop := ∃ file, path = folder ++ "/" ++ file ∧ IsFileName file

end SourcePath

open SourcePath (IsFileName InFolder IsTrimmed)

namespace Settings

variable {settings : Settings}

/-- **An extension that is not refused** is more than one character, and no slash. -/
theorem extension_of_check (h : settings.check = .ok ()) :
    2 ≤ settings.extension.length ∧ '/' ∉ settings.extension.toList := by
  unfold check at h
  split at h
  · cases h
  · rename_i hfault
    unfold extensionFault? at hfault
    split at hfault
    · rename_i hext
      split_ifs at hfault with hslash
      refine ⟨?_, hslash⟩
      rw [← String.length_toList, hext, List.length_cons, List.length_cons]
      omega
    · cases hfault

/-- A name without slashes, with such an extension, names a file. -/
theorem isFileName_fileName (h : settings.check = .ok ()) {name : String} (hne : name ≠ "")
    (hname : '/' ∉ name.toList) : IsFileName (name ++ settings.extension) := by
  obtain ⟨hlen, hext⟩ := extension_of_check h
  have hpos : name.length ≠ 0 := fun hzero => hne (String.length_eq_zero_iff.1 hzero)
  have hlong : 3 ≤ (name ++ settings.extension).length := by
    rw [String.length_append]
    omega
  refine ⟨?_, fun heq => ?_, fun heq => ?_⟩
  · rw [String.toList_append, List.mem_append]
    exact fun hmem => hmem.elim hname hext
  · rw [heq] at hlong
    exact absurd hlong (by decide)
  · rw [heq] at hlong
    exact absurd hlong (by decide)

end Settings

namespace Render

variable {settings : Settings} {text name : String}

/-- A text refers to a component by one body character at least, and no slash. -/
theorem ne_empty_and_not_mem_of_references (h : References text name) :
    name ≠ "" ∧ '/' ∉ name.toList := by
  obtain ⟨d, hd, hname⟩ := h
  unfold Directive.component? at hname
  split at hname
  · refine ⟨fun heq => ?_, fun hslash => ?_⟩
    · obtain ⟨-, hne⟩ := Option.filter_eq_some_iff.1 hname
      rw [heq] at hne
      exact absurd hne (by decide)
    · have hchar := Directive.isArgumentChar_of_mem hd
        (List.mem_cons_of_mem _ (Directive.mem_args_of_argument? hname)) hslash
      exact absurd hchar (by decide)
  · cases hname

/-- **A component to which a text refers is a file in the folder of components.** -/
theorem isFileName_of_references (hcheck : settings.check = .ok ()) (h : References text name) :
    IsFileName (name ++ settings.extension) :=
  have ⟨hne, hname⟩ := ne_empty_and_not_mem_of_references h
  settings.isFileName_fileName hcheck hne hname

/-- Its path is the folder, a slash, the name and the extension. -/
theorem componentPath_of_references (hcheck : settings.check = .ok ()) (h : References text name) :
    settings.componentPath name =
      String.ofList (SourcePath.dropTrailing settings.componentsRoot.toList) ++ "/" ++
        (name ++ settings.extension) :=
  SourcePath.join_of_not_mem (isFileName_of_references hcheck h).1

/-- **A template cannot read outside the folder of components.**  If the settings are
not refused, every path that a render asks for, at whatever depth, is that of a file in
the folder, with the name of a component to which a source refers; different
components have different paths; and what a loader gives for any other path does
not matter to the render. -/
theorem loads_inFolder (hcheck : settings.check = .ok ()) :
    ∃ folder, IsTrimmed settings.componentsRoot folder ∧
      (∀ loader layer text context path,
        (renderAt settings loader layer text context).Loads path →
        ∃ source name, Drawn settings loader text source ∧ References source name ∧
          path = folder ++ "/" ++ (name ++ settings.extension) ∧
          IsFileName (name ++ settings.extension)) ∧
      (∀ text text' name name', References text name → References text' name' → name ≠ name' →
        settings.componentPath name ≠ settings.componentPath name') ∧
      ∀ loader other : Loader, (∀ path, InFolder folder path → other path = loader path) →
        ∀ layer text context,
          renderAt settings other layer text context =
            renderAt settings loader layer text context := by
  refine ⟨_, SourcePath.isTrimmed_dropTrailing settings.componentsRoot, ?_, ?_, ?_⟩
  · intro loader layer text context path hloads
    obtain ⟨source, name, hdrawn, hrefers, rfl⟩ := exists_references_of_loads hloads
    exact ⟨source, name, hdrawn, hrefers, componentPath_of_references hcheck hrefers,
      isFileName_of_references hcheck hrefers⟩
  · intro text text' name name' hrefers hrefers' hne hpath
    rw [componentPath_of_references hcheck hrefers, componentPath_of_references hcheck hrefers',
      String.append_right_inj, String.append_left_inj] at hpath
    exact hne hpath
  · intro loader other hsame layer text context
    refine renderAt_congr_of_loads fun path hloads => hsame path ?_
    obtain ⟨source, name, -, hrefers, rfl⟩ := exists_references_of_loads hloads
    exact ⟨_, componentPath_of_references hcheck hrefers, isFileName_of_references hcheck hrefers⟩

/-- Components with dots for names, and a folder with slashes at its end. -/
theorem loads_inFolder_dots :
    (Settings.mk "pages" "site/parts//" ".tmpl").check = .ok () ∧
    References "[[ component:.. ]][[ component:... ]]" ".." ∧
    References "[[ component:.. ]][[ component:... ]]" "..." ∧
    (Settings.mk "pages" "site/parts//" ".tmpl").componentPath ".." ≠
      (Settings.mk "pages" "site/parts//" ".tmpl").componentPath "..." ∧
    ∃ folder, IsTrimmed "site/parts//" folder ∧ ∀ loader path,
      (renderAt ⟨"pages", "site/parts//", ".tmpl"⟩ loader 0
        "[[ component:.. ]][[ component:... ]]" .empty).Loads path → InFolder folder path := by
  have hcheck : (Settings.mk "pages" "site/parts//" ".tmpl").check = .ok () := by decide +kernel
  have hone : References "[[ component:.. ]][[ component:... ]]" ".." :=
    ⟨.ofBody "component:..".toList 0 1, by decide +kernel, by decide +kernel⟩
  have hother : References "[[ component:.. ]][[ component:... ]]" "..." :=
    ⟨.ofBody "component:...".toList 18 1, by decide +kernel, by decide +kernel⟩
  obtain ⟨folder, htrimmed, hloads, hne, -⟩ := loads_inFolder hcheck
  refine ⟨hcheck, hone, hother, hne _ _ _ _ hone hother (by decide), folder, htrimmed, ?_⟩
  intro loader path hpath
  obtain ⟨-, name, -, -, rfl, hfile⟩ := hloads loader 0 _ _ path hpath
  exact ⟨_, rfl, hfile⟩

end Render

end BracketTemplate
