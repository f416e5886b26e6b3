import Mathlib
import LuaIntrospect.Proofs.ErrorLocation

/-! Chunk names: a script path and a span resolve to a chunk by the first of four rules that
applies. Main statement: `chunk_resolution_rules`. -/
namespace LuaIntrospect

theorem getLast?_filter_nonempty {segments : List String} {name : String}
    (found : (segments.filter (· ≠ "")).getLast? = some name) :
    ∃ before after, segments = before ++ name :: after ∧ name ≠ "" ∧ ∀ s ∈ after, s = "" := by
  induction segments using List.reverseRecOn with
  | nil => simp at found
  | append_singleton rest last ih =>
    by_cases empty : last = ""
    · -- an empty last segment is skipped
      have skipped : (rest ++ [last]).filter (· ≠ "") = rest.filter (· ≠ "") := by
        simp [List.filter_append, empty]
      rw [skipped] at found
      obtain ⟨before, after, split, named, blank⟩ := ih found
      refine ⟨before, after ++ [last], by simp [split], named, ?_⟩
      intro s member
      rcases List.mem_append.mp member with earlier | now
      · exact blank s earlier
      · simpa [empty] using now
    · have kept : (rest ++ [last]).filter (· ≠ "") = rest.filter (· ≠ "") ++ [last] := by
        simp [List.filter_append, empty]
      rw [kept, List.getLast?_concat, Option.some.injEq] at found
      subst found
      exact ⟨rest, [], by simp, empty, by simp⟩

theorem getLast?_filter_nonempty_none {segments : List String}
    (none : (segments.filter (· ≠ "")).getLast? = none) : ∀ s ∈ segments, s = "" := by
  simpa [List.getLast?_eq_none_iff, List.filter_eq_nil_iff] using none

namespace ChunkSource

/-- The path of a URL: the URL without a `file://` scheme. -/
def urlPath (url : String) : String :=
  if url.startsWith "file://" then (url.drop 7).toString else url

/-- The segments of a path between the separators `/` and `\`. -/
def pathSegments (path : String) : List String :=
  path.splitToList fun c => c == '/' || c == '\\'

theorem fileName_segments (url : String) :
    (∃ before after, pathSegments (urlPath url) = before ++ fileName url :: after ∧
        fileName url ≠ "" ∧ ∀ s ∈ after, s = "") ∨
      ((∀ s ∈ pathSegments (urlPath url), s = "") ∧ fileName url = urlPath url) := by
  have named : fileName url =
      ((pathSegments (urlPath url)).filter (· ≠ "")).getLast?.getD (urlPath url) := rfl
  cases found : ((pathSegments (urlPath url)).filter (· ≠ "")).getLast? with
  | some name =>
    rw [found, Option.getD_some] at named
    rw [named]
    exact .inl (getLast?_filter_nonempty found)
  | none =>
    rw [found, Option.getD_none] at named
    exact .inr ⟨getLast?_filter_nonempty_none found, named⟩

theorem hasPrefix_iff (p : String) :
    hasPrefix p = true ↔ p.startsWith "@" ∨ p.startsWith "=" ∨ p.startsWith "[" := by
  simp [hasPrefix, Bool.or_assoc]

theorem file_source_ne_native (name : String) : "@" ++ name ≠ "=[C]" := by
  intro same
  have letters := congrArg String.toList same
  simp at letters

theorem ofOrigin_source_ne_native (url : String) : (ofOrigin url).source ≠ "=[C]" := by
  unfold ofOrigin
  split
  · simp [commandLine]
  · exact file_source_ne_native _

theorem resolve_isNative (path : Option String) (span : Option Span) :
    (resolve path span).isNative = true ↔
      path = some "=[C]" ∨ (path = none ∧ span.bind Span.url = none) := by
  have hostPrefixed : hasPrefix "=[C]" = true := by simp [hasPrefix]
  cases path with
  | some p =>
    by_cases prefixed : hasPrefix p
    · simp [resolve, prefixed, isNative]
    · -- an unprefixed path is not `=[C]`
      have other : p ≠ "=[C]" := fun same => prefixed (same ▸ hostPrefixed)
      cases url : span.bind Span.url <;>
        simp [resolve, prefixed, url, isNative, other, ofOrigin_source_ne_native]
  | none =>
    cases url : span.bind Span.url <;>
      simp [resolve, url, native, isNative, ofOrigin_source_ne_native]

end ChunkSource

open ChunkSource in
/-- How a script path and a span resolve to a chunk. The first applicable rule decides:
(1) a path starting with `@`, `=` or `[` is the source as it is, with the short name of the file
after `@`, or the path itself; (2) otherwise a span's URL gives the command line for `-`, `-e`,
`(command line)`, `<command line>` and `data:` URLs, and else `@` and the file's name, which is
the last non-empty segment between `/` and `\` of the URL without `file://`, or that whole path
when it has none; (3) otherwise the path is used as both names; (4) otherwise the chunk is host
code. The chunk is host code exactly when the path is `=[C]`, or when there is no path and no
URL; for a frame of guest code on top of a stack that resolves through this path and span, that
is exactly when an error raised there is left bare. -/
theorem chunk_resolution_rules (path : Option String) (span : Option Span) :
    (∀ p, path = some p → (p.startsWith "@" ∨ p.startsWith "=" ∨ p.startsWith "[") →
      resolve path span = ⟨p, if p.startsWith "@" then shorten (p.drop 1).toString else p⟩) ∧
    (∀ url, (∀ p, path = some p → ¬(p.startsWith "@" ∨ p.startsWith "=" ∨ p.startsWith "[")) →
      span.bind Span.url = some url →
      resolve path span =
        if url ∈ ["-", "-e", "(command line)", "<command line>"] ∨ url.startsWith "data:" then
          ⟨"=(command line)", "(command line)"⟩
        else ⟨"@" ++ fileName url, shorten (fileName url)⟩) ∧
    (∀ p, path = some p → ¬(p.startsWith "@" ∨ p.startsWith "=" ∨ p.startsWith "[") →
      span.bind Span.url = none → resolve path span = ⟨p, p⟩) ∧
    (path = none → span.bind Span.url = none → resolve path span = ⟨"=[C]", "[C]"⟩) ∧
    (∀ url, (∃ before after, pathSegments (urlPath url) = before ++ fileName url :: after ∧
        fileName url ≠ "" ∧ ∀ s ∈ after, s = "") ∨
      ((∀ s ∈ pathSegments (urlPath url), s = "") ∧ fileName url = urlPath url)) ∧
    ((resolve path span).isNative = true ↔
      path = some "=[C]" ∨ (path = none ∧ span.bind Span.url = none)) ∧
    (∀ (s : CallStack) (frame : Frame), s.top? = some frame → frame.kind ≠ .native →
      (frame.scriptPath.orElse fun _ => s.scriptPath) = path → frame.span = span →
      ∀ msg, (Exec.locateIn s (.raise msg) = .raise msg ↔
        path = some "=[C]" ∨ (path = none ∧ span.bind Span.url = none))) := by
  refine ⟨?_, ?_, ?_, ?_, fileName_segments, resolve_isNative path span, ?_⟩
  · rintro p rfl prefixed
    simp [resolve, (hasPrefix_iff p).mpr prefixed]
  · intro url unprefixed url_given
    cases path with
    | some p =>
      have bare : hasPrefix p = false :=
        Bool.eq_false_iff.mpr fun prefixed => unprefixed p rfl ((hasPrefix_iff p).mp prefixed)
      simp [resolve, bare, url_given, ofOrigin, commandLine, commandLineOrigins]
    | none => simp [resolve, url_given, ofOrigin, commandLine, commandLineOrigins]
  · rintro p rfl unprefixed no_url
    have bare : hasPrefix p = false :=
      Bool.eq_false_iff.mpr fun prefixed => unprefixed ((hasPrefix_iff p).mp prefixed)
    simp [resolve, bare, no_url]
  · rintro rfl no_url
    simp [resolve, no_url, native]
  · intro s frame top guest own_path own_span msg
    -- the newest frame runs guest code, so its chunk is the resolved one
    have chunk : forFrame frame s.scriptPath = resolve path span := by
      rw [← own_path, ← own_span]
      cases kind : frame.kind
      · simp only [forFrame, kind]
      · exact absurd kind guest
      · simp only [forFrame, kind]
    rw [← resolve_isNative, ← chunk]
    simp only [Exec.locateIn, top, LuaError.raise, LuaError.locate]
    -- a located error carries a location, which the bare one lacks
    by_cases host : (forFrame frame s.scriptPath).isNative <;> simp [host]

open ChunkSource in
/-- One path and span for each rule, and a guest frame whose script path names host code, so that
an error raised there stays bare. -/
theorem chunk_rules_on_examples :
    ("=stdin".startsWith "=" = true ∧
      resolve (some "=stdin") (some { url := some "file:///x.lua" }) = ⟨"=stdin", "=stdin"⟩) ∧
    (¬("util chunk".startsWith "@" ∨ "util chunk".startsWith "=" ∨ "util chunk".startsWith "[") ∧
      resolve (some "util chunk") (some { url := some "file:///home/dev/project/lib/util.lua" }) =
        ⟨"@util.lua", "util.lua"⟩) ∧
    (¬("return 1".startsWith "@" ∨ "return 1".startsWith "=" ∨ "return 1".startsWith "[") ∧
      resolve (some "return 1") (some {}) = ⟨"return 1", "return 1"⟩) ∧
    resolve none none = ⟨"=[C]", "[C]"⟩ ∧
    (FrameKind.guest ≠ .native ∧
      Exec.locateIn { frames := #[{ scriptPath := some "=[C]" }] } (.raise "boom") =
        .raise "boom") := by
  have verbatim : "=stdin".startsWith "=" = true := by simp
  have chunkName : ¬("util chunk".startsWith "@" ∨ "util chunk".startsWith "=" ∨
      "util chunk".startsWith "[") := by simp
  have text : ¬("return 1".startsWith "@" ∨ "return 1".startsWith "=" ∨
      "return 1".startsWith "[") := by simp
  have guest : FrameKind.guest ≠ .native := by decide
  refine ⟨⟨verbatim, ?_⟩, ⟨chunkName, ?_⟩, ⟨text, ?_⟩, ?_, ⟨guest, ?_⟩⟩
  · rw [(chunk_resolution_rules _ _).1 "=stdin" rfl (.inr (.inl verbatim))]
    decide +kernel
  · rw [(chunk_resolution_rules _ _).2.1 _ (fun p same => by cases same; exact chunkName) rfl]
    decide +kernel
  · exact (chunk_resolution_rules _ _).2.2.1 "return 1" rfl text rfl
  · exact (chunk_resolution_rules none none).2.2.2.1 rfl rfl
  · exact ((chunk_resolution_rules (some "=[C]") none).2.2.2.2.2.2 _ { scriptPath := some "=[C]" }
      rfl guest rfl rfl "boom").mpr (.inl rfl)

end LuaIntrospect
