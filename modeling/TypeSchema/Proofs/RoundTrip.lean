import TypeSchema.Proofs.Completeness
import TypeSchema.Proofs.Printing

namespace TypeSchema.TypeExpr

open Text

/-- Parsing undoes printing. -/
theorem parse_text (t : TypeExpr) (hwf : t.wellFormed isModulePath false = true)
    (hheight : t.height ≤ 256) :
    parse t.text = .ok (t.mapPaths shortModuleName) ∧
      (t.mapPaths shortModuleName).text = t.text := by
  refine ⟨?_, ?_⟩
  · have hread : (t.mapPaths shortModuleName).wellFormed isPathText false = true :=
      wellFormed_mapPaths shortModuleName_empty
        (fun _ h => ⟨isEmpty_shortModuleName h, isPathText_shortModuleName h⟩) t hwf
    have hlevels : (t.mapPaths shortModuleName).height ≤ maxNesting := by
      rw [height_mapPaths]
      exact hheight
    obtain ⟨e, hspells⟩ := spells_chars t hwf
    have hparse := parseChars_of_spells hspells hread hlevels blanks_nil
    rw [List.nil_append] at hparse
    rw [parse, toList_text, hparse]
  · rw [text, text, chars_mapPaths t hwf]

/-- A keyword as the name of an embedded type, a func without results in front of a tag, and a func
that returns one. -/
def sampleType (path : String) : TypeExpr :=
  .struct [⟨"", .ident "" "map", some "json:\"a; b\""⟩, ⟨"", .pointer (.ident path "Widget"), none⟩,
    ⟨"Run", .func [.func [] [], .chan .interface] [], some ""⟩,
    ⟨"Wrap", .func [] [.func [] [.map (.ident "" "string") (.array (.ident "" "int"))]], none⟩]

theorem parse_text_sampleType :
    (sampleType "github.com/acme/models").wellFormed isModulePath false = true ∧
      (sampleType "github.com/acme/models").height ≤ 256 ∧
      parse (sampleType "github.com/acme/models").text = .ok (sampleType "models") ∧
      (sampleType "models").text = (sampleType "github.com/acme/models").text :=
  ⟨by decide, by decide, parse_text (sampleType "github.com/acme/models") (by decide) (by decide)⟩

end TypeSchema.TypeExpr
