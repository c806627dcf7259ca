import OsgiIvy.Proofs.Bundle.Files
import OsgiIvy.Proofs.Text.Lines

/-!
# Manifests in files

The line ends of a file are read alike before its lines are cut, and those of a text are not.  A
manifest is the same in both (`ofEntry_ofText`): the lines are those of the text, under the same
numbers, and so are the headers or the fault.
-/

namespace OsgiIvy

open OsgiIvy.Text

theorem Entry.readText_ofText (text : String) :
    (Entry.ofText text).readText = .ok (String.ofList (readNewlines text.toList)) :=
  BundleSource.readText_of_decode? (Utf8.decode?_encode text.toList)

namespace Manifest

theorem parse_readNewlines (text : String) :
    parse (String.ofList (readNewlines text.toList)) = parse text := by
  unfold parse parseChars
  rw [String.toList_ofList, lines_readNewlines]

theorem ofManifestText_readNewlines (text : String) :
    BundleSource.ofManifestText (String.ofList (readNewlines text.toList)) =
      BundleSource.ofManifestText text := by
  unfold BundleSource.ofManifestText
  rw [parse_readNewlines]

/-- Whatever its line ends, a text in a file has the headers or the fault that it has as it stands,
and a bundle that is loaded from it is the one that the text describes. -/
theorem ofEntry_ofText (text : String) :
    ofEntry (.ofText text) = (parse text).mapError .content ∧
      ∀ path, BundleSource.isManifest path = true →
        BundleSource.ofEntry path (.ofText text) = BundleSource.ofManifestText text := by
  have hread := Entry.readText_ofText text
  constructor
  · unfold ofEntry
    rw [hread, mapError_ok, ok_bind, parse_readNewlines]
  · intro path hpath
    unfold BundleSource.ofEntry BundleSource.ofEntryWith
    rw [hread, mapError_ok, ok_bind, if_pos hpath, ofManifestText_readNewlines]

/-- A blank line, a header that is gone on with, and a line that is none, under other line ends. -/
def mixedLines : String := "\r\nBundle-Name: a\x0b b\r\rc\n"

theorem ofEntry_ofText_mixedLines :
    BundleSource.isManifest (.ofString "META-INF/MANIFEST.MF") = true ∧
      ofEntry (.ofText mixedLines) = .ok ⟨[("Bundle-Name", "ab")]⟩ ∧
      BundleSource.ofEntry (.ofString "META-INF/MANIFEST.MF") (.ofText mixedLines) =
        .error (.manifest ⟨[("Bundle-Name", "ab")]⟩ .noSymbolicName) := by
  have hpath : BundleSource.isManifest (.ofString "META-INF/MANIFEST.MF") = true := by decide
  obtain ⟨hheaders, hbundle⟩ := ofEntry_ofText mixedLines
  have hparse : parse mixedLines = .ok ⟨[("Bundle-Name", "ab")]⟩ := by decide
  refine ⟨hpath, ?_, ?_⟩
  · rw [hheaders, hparse]
    rfl
  · rw [hbundle _ hpath]
    rfl

end Manifest

end OsgiIvy
