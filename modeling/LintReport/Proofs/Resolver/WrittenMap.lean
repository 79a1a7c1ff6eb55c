import LintReport.Proofs.Json.LineBreaks
import LintReport.Proofs.Resolver.Load
import LintReport.Proofs.Resolver.Recall
import LintReport.Proofs.SourceMap.Written

/-!
# From written mappings to an answer

Mappings are written to a source map, the source map to a file, and a directive that names this file
to the last line of a generated file. A lookup in the generated file then answers with the place that
the mappings had before all that. The steps on the way are the bytes of both files, the directive,
the path of the map, the JSON text, the differences of the mappings, their order and the search.
-/

namespace LintReport

/-- A JSON text does not begin as a guarded one does. -/
theorem Json.read_guarded (t : Text) (depth : Nat) (v : Value) :
    Json.read (SourceMap.guardPrefix ++ t) depth ≠ .ok v := by
  intro h
  obtain ⟨rest, hv, -⟩ := Json.read_eq_ok_iff.mp h
  have hskip : Json.skip (SourceMap.guardPrefix ++ t) = ')' :: ("]\x7d'".toList ++ t) := rfl
  rw [hskip] at hv
  -- no value begins with a parenthesis
  rcases Json.value_eq_ok_iff.mp hv with hword | ⟨_, _, heq, -⟩ | ⟨_, _, heq, -⟩ |
    ⟨_, _, heq, -⟩ | ⟨_, heq, -⟩ | hnumber
  · have hnone : Json.word? (')' :: ("]\x7d'".toList ++ t)) = none := rfl
    rw [hnone] at hword
    simp at hword
  · simp at heq
  · simp at heq
  · simp at heq
  · simp at heq
  · obtain ⟨c, tail, heq, hc⟩ := Json.exists_digit_of_number_eq_ok hnumber
    obtain ⟨rfl, -⟩ := List.cons.inj heq
    exact absurd hc (by decide)

theorem SourceMap.dropGuard_of_read {t : Text} {depth : Nat} {v : Value}
    (h : Json.read t depth = .ok v) : dropGuard t = t := by
  unfold dropGuard
  split
  · next hprefix =>
      obtain ⟨rest, rfl⟩ := List.isPrefixOf_iff_prefix.mp hprefix
      exact absurd h (Json.read_guarded rest depth v)
  · rfl

namespace Resolver

/-- Take lines of mappings, a JSON text that writes them together with sources, and a value of a
directive that is neither an inline map nor a file URL. If the disk holds a text that ends in a line
with the directive, and the JSON text where the directive leads from there, then a lookup through a
fresh cache answers with the place that the nearest mapping of the line had before it was written,
in the source as it lies beside the map; and with the position itself where no mapping leads to a
source. -/
theorem lookup_of_written {disk : Disk} {generated before value mapText : Text}
    {entries : List (Value × Value)} {sources : List Text} {lines : List (List Mapping)}
    (hlines : lines ≠ []) (hsources : ∀ source ∈ sources, Url.isFileUrl source = false)
    (hjson : Json.read mapText disk.room.sourceMap = .ok (.map entries))
    (hwrites : SourceMap.Writes entries sources lines)
    (hvalue : value ≠ []) (hfeed : '\n' ∉ value) (hreturn : '\r' ∉ value)
    (hblank : ∀ c, value.getLast? = some c → Text.isBlank c = false)
    (hinline : Directive.isInline value = false) (hurl : Url.isFileUrl value = false)
    (hgenerated : disk.file? generated =
      some (.bytes (Utf8.encode (before ++ '\n' :: directive value))))
    (hmap : disk.file? (besides disk generated value) = some (.bytes (Utf8.encode mapText)))
    (line column : Int) :
    (lookup disk Cache.empty ⟨generated, .int line, .int column⟩).result =
      .ok (match SourceMap.originBefore? sources lines line column with
        | none => ⟨.noMatch, ⟨generated, .int line, .int column⟩⟩
        | some (source, originalLine, originalColumn) =>
          ⟨.found, ⟨besides disk (besides disk generated value) source, .int originalLine,
            .int originalColumn⟩⟩) := by
  obtain ⟨sourceMap, hmapOk, hmapSources, hmapLines⟩ := SourceMap.ofValue_of_writes hwrites hlines
  -- the text of the map as it is read has other line breaks, but the same value
  have hjson' := Json.read_unixLineBreaks hjson
  have hofText : SourceMap.ofText (Disk.unixLineBreaks mapText) disk.room.sourceMap =
      .ok sourceMap := by
    rw [SourceMap.ofText, SourceMap.dropGuard_of_read hjson', hjson']
    exact hmapOk
  have hload := outcome_load_of_target (directiveValue?_of_file? hvalue hfeed hreturn hblank
    hgenerated) (target_of_file? hinline hurl hmap) hofText
  have horigin := SourceMap.origin?_of_written hmapSources hmapLines line column
  rw [result_lookup_empty, hload]
  dsimp only [Except.bind, answer, Entry.sourceMap?]
  cases hbefore : SourceMap.originBefore? sources lines line column with
  | none =>
      rw [hbefore] at horigin
      dsimp only at horigin ⊢
      rw [horigin]
  | some origin =>
      obtain ⟨source, originalLine, originalColumn⟩ := origin
      rw [hbefore] at horigin
      obtain ⟨name, horigin⟩ := horigin
      have hsource := hsources source (SourceMap.mem_sources_of_originBefore? hbefore)
      dsimp only
      rw [horigin]
      dsimp only [sourcePath]
      rw [Url.toPath_of_not_isFileUrl hsource]

def mappedDisk : Disk :=
  ⟨"/w", [
    ("/w/a.js", .bytes (Utf8.encode "x\n//# sourceMappingURL=m/a.map")),
    ("/w/m/a.map", .bytes (Utf8.encode
      "\x7b\"version\":3,\"sources\":[\"../s\"],\"mappings\":\"M,JAEK;\"\x7d"))], [], {}⟩

theorem lookup_mappedDisk :
    (lookup mappedDisk Cache.empty ⟨"/w/a.js", .int 1, .int 5⟩).result =
      .ok ⟨.found, ⟨"/w/s", .int 3, .int 5⟩⟩ := by
  have hjson : Json.read "\x7b\"version\":3,\"sources\":[\"../s\"],\"mappings\":\"M,JAEK;\"\x7d" =
      .ok (.map [(.str "version", .int 3), (.str "sources", .list [.str "../s"]),
        (.str "mappings", .str "M,JAEK;")]) := rfl
  have hwrites : SourceMap.Writes
      [(.str "version", .int 3), (.str "sources", .list [.str "../s"]),
        (.str "mappings", .str "M,JAEK;")]
      ["../s"] [[⟨0, 6, none⟩, ⟨0, 2, some ⟨0, 3, 5, none⟩⟩], []] :=
    ⟨rfl, rfl, rfl, ⟨[], rfl⟩, rfl, congrArg Value.str (by decide +kernel)⟩
  have hgenerated : mappedDisk.file? "/w/a.js" =
      some (.bytes (Utf8.encode ("x".toList ++ '\n' :: directive "m/a.map"))) := rfl
  have hmap : mappedDisk.file? (besides mappedDisk "/w/a.js" "m/a.map") =
      some (.bytes (Utf8.encode
        "\x7b\"version\":3,\"sources\":[\"../s\"],\"mappings\":\"M,JAEK;\"\x7d")) := rfl
  have hend : ∀ c, ("m/a.map".toList : Text).getLast? = some c → Text.isBlank c = false := by
    intro c hc
    obtain rfl := Option.some.inj hc
    decide
  exact lookup_of_written (by decide) (by decide) hjson hwrites (by decide) (by decide) (by decide)
    hend rfl rfl hgenerated hmap 1 5

end Resolver

end LintReport
