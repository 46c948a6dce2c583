import ResponsiveStyles.Proofs.WriteHistory
import ResponsiveStyles.Query.Compiler
import Mathlib.Data.Finset.Card

/-!
# Media queries that are remembered

A compiler keeps the media query of a key from the first request on that goes through its cache. After
any requests, in any order and with any contexts, the cache holds the keys of those requests in the
order of their first ones, each compiled in the context of its first one. Requests past the cache leave
no trace, and where no feature looks at the context the cache cannot be noticed.
-/
namespace ResponsiveStyles

variable {γ : Type}

/-- What a compiler may be asked for, with the context for the features of the key. -/
inductive QueryRequest (γ : Type) where
  | compile (key : Text)
  | compileIn (key : Text) (context : Option γ)
  /-- The media query as it is compiled anew, past the cache. -/
  | compileAnew (key : Text) (context : Option γ)

namespace QueryRequest

def key : QueryRequest γ → Text
  | .compile key => key
  | .compileIn key _ => key
  | .compileAnew key _ => key

def cached? : QueryRequest γ → Option (Text × Option γ)
  | .compile key => some (key, none)
  | .compileIn key context => some (key, context)
  | .compileAnew _ _ => none

end QueryRequest

def cachedRequests (history : List (QueryRequest γ)) : List (Text × Option γ) :=
  history.filterMap QueryRequest.cached?

/-- The context of the first request for a key that went through the cache. -/
def firstContext (history : List (QueryRequest γ)) (key : Text) : Option γ :=
  (OrderedMap.firstWrite? key (cachedRequests history)).join

namespace QuerySettings

def IgnoresContext (s : QuerySettings γ) : Prop :=
  ∀ name feature, s.features.get? name = some feature →
    ∀ d args key context context', feature d args key context = feature d args key context'

def answerIn (s : QuerySettings γ) (history : List (QueryRequest γ)) : QueryRequest γ → Text
  | .compile key => s.compile key (firstContext history key)
  | .compileIn key _ => s.compile key (firstContext history key)
  | .compileAnew key context => s.compile key context

section Congr
variable {s : QuerySettings γ} {key key' : Text} {context context' : Option γ}
  (h : ∀ name feature, s.features.get? name = some feature →
    ∀ d args, feature d args key context = feature d args key' context')
include h

theorem call?_congr (d : Descriptor) (f : Text) :
    s.features.call? d f key context = s.features.call? d f key' context' := by
  unfold FeatureRegistry.call?
  split
  · rfl
  · rename_i call _
    cases hget : s.features.get? call.name with
    | none => rfl
    | some feature => exact congrArg some (h call.name feature hget d call.args)

theorem describe_congr (fragments : List Text) :
    s.describe key context fragments = s.describe key' context' fragments := by
  have hread : s.read key context = s.read key' context' := by
    funext d f
    simp only [QuerySettings.read, call?_congr h d f]
  unfold QuerySettings.describe
  rw [hread]

end Congr

theorem IgnoresContext.branch_eq {s : QuerySettings γ} (h : s.IgnoresContext) (key : Text)
    (context context' : Option γ) : s.branch key context = s.branch key context' := by
  funext b
  refine congrArg Descriptor.render (describe_congr ?_ _)
  intro name feature hget d args
  exact h name feature hget d args key context context'

theorem IgnoresContext.compile_eq {s : QuerySettings γ} (h : s.IgnoresContext) (key : Text)
    (context context' : Option γ) : s.compile key context = s.compile key context' := by
  unfold QuerySettings.compile
  rw [h.branch_eq key context context']

end QuerySettings

namespace QueryCompiler

def answer (c : QueryCompiler γ) : QueryRequest γ → Text × QueryCompiler γ
  | .compile key => c.compile key none
  | .compileIn key context => c.compile key context
  | .compileAnew key context => (c.settings.compile key context, c)

def answerAll (c : QueryCompiler γ) : List (QueryRequest γ) → List Text × QueryCompiler γ
  | [] => ([], c)
  | r :: rs =>
    let later := (c.answer r).2.answerAll rs
    ((c.answer r).1 :: later.1, later.2)

/-- The cache is what the first of these requests make it. -/
structure Remembers (c : QueryCompiler γ) (s : QuerySettings γ)
    (cached : List (Text × Option γ)) : Prop where
  settings_eq : c.settings = s
  cache_eq : c.cache = (OrderedMap.firstWrites cached).map fun p => (p.1, s.compile p.1 p.2)

section Remembers
variable {c : QueryCompiler γ} {s : QuerySettings γ} {cached : List (Text × Option γ)}

theorem Remembers.get?_cache (h : c.Remembers s cached) (key : Text) :
    c.cache.get? key = (OrderedMap.firstWrite? key cached).map (s.compile key) := by
  rw [h.cache_eq, OrderedMap.get?_map, OrderedMap.get?_firstWrites]

theorem Remembers.keys_cache (h : c.Remembers s cached) :
    c.cache.keys = (cached.map Prod.fst).eraseDups := by
  rw [← OrderedMap.keys_firstWrites, h.cache_eq, OrderedMap.keys, List.map_map]
  rfl

theorem Remembers.compile (h : c.Remembers s cached) (key : Text) (context : Option γ) :
    (c.compile key context).1 =
        s.compile key (OrderedMap.firstWrite? key (cached ++ [(key, context)])).join ∧
      (c.compile key context).2.Remembers s (cached ++ [(key, context)]) := by
  have hget := h.get?_cache key
  rw [OrderedMap.firstWrite?_append]
  cases hfirst : OrderedMap.firstWrite? key cached with
  | some first =>
    have hmem : key ∈ cached.map Prod.fst := by
      by_contra hn
      simp [OrderedMap.firstWrite?_eq_none_iff.2 hn] at hfirst
    rw [hfirst, Option.map_some] at hget
    simp only [QueryCompiler.compile, hget]
    exact ⟨rfl, h.settings_eq, by rw [OrderedMap.firstWrites_concat_of_mem hmem, h.cache_eq]⟩
  | none =>
    have hnot : key ∉ cached.map Prod.fst := OrderedMap.firstWrite?_eq_none_iff.1 hfirst
    rw [hfirst, Option.map_none] at hget
    simp only [QueryCompiler.compile, hget, h.settings_eq]
    refine ⟨by simp [OrderedMap.firstWrite?], rfl, ?_⟩
    rw [OrderedMap.insert_of_notMem (OrderedMap.get?_eq_none_iff.1 hget),
      OrderedMap.firstWrites_concat_of_notMem hnot, List.map_append, h.cache_eq]
    rfl

theorem Remembers.answer (h : c.Remembers s cached) (r : QueryRequest γ) :
    (c.answer r).2.Remembers s (cached ++ r.cached?.toList) := by
  cases r with
  | compile key => exact (h.compile key none).2
  | compileIn key context => exact (h.compile key context).2
  | compileAnew key context => simpa [QueryCompiler.answer, QueryRequest.cached?] using h

end Remembers

theorem answerAll_concat (c : QueryCompiler γ) (rs : List (QueryRequest γ)) (r : QueryRequest γ) :
    c.answerAll (rs ++ [r]) =
      ((c.answerAll rs).1 ++ [((c.answerAll rs).2.answer r).1], ((c.answerAll rs).2.answer r).2) := by
  induction rs generalizing c with
  | nil => rfl
  | cons r' rs ih => simp only [List.cons_append, answerAll, ih]

theorem remembers_answerAll (s : QuerySettings γ) (history : List (QueryRequest γ)) :
    (answerAll { settings := s } history).2.Remembers s (cachedRequests history) := by
  induction history using List.reverseRecOn with
  | nil => exact ⟨rfl, rfl⟩
  | append_singleton rs r ih =>
    rw [answerAll_concat, cachedRequests, List.filterMap_append]
    have hr := ih.answer r
    cases r with
    | compile key => exact hr
    | compileIn key context => exact hr
    | compileAnew key context => exact hr

theorem firstContext_concat_of_mem {rs : List (QueryRequest γ)} {key : Text} {context : Option γ}
    (h : (key, context) ∈ cachedRequests rs) (r : QueryRequest γ) :
    firstContext (rs ++ [r]) key = firstContext rs key := by
  have hne : OrderedMap.firstWrite? key (cachedRequests rs) ≠ none := by
    rw [ne_eq, OrderedMap.firstWrite?_eq_none_iff, Decidable.not_not]
    exact List.mem_map_of_mem (f := Prod.fst) h
  obtain ⟨first, hfirst⟩ := Option.ne_none_iff_exists'.1 hne
  rw [cachedRequests] at hfirst
  simp only [firstContext, cachedRequests, List.filterMap_append, OrderedMap.firstWrite?_append,
    hfirst, Option.some_or]

theorem answerIn_concat (s : QuerySettings γ) {rs : List (QueryRequest γ)} {r' : QueryRequest γ}
    (h : r' ∈ rs) (r : QueryRequest γ) : s.answerIn (rs ++ [r]) r' = s.answerIn rs r' := by
  have hmem (p : Text × Option γ) (hp : r'.cached? = some p) : p ∈ cachedRequests rs :=
    List.mem_filterMap.2 ⟨r', h, hp⟩
  cases r' with
  | compile key =>
    exact congrArg (s.compile key) (firstContext_concat_of_mem (hmem _ rfl) r)
  | compileIn key context =>
    exact congrArg (s.compile key) (firstContext_concat_of_mem (hmem _ rfl) r)
  | compileAnew key context => rfl

theorem fst_answer {c : QueryCompiler γ} {s : QuerySettings γ} {rs : List (QueryRequest γ)}
    (h : c.Remembers s (cachedRequests rs)) (r : QueryRequest γ) :
    (c.answer r).1 = s.answerIn (rs ++ [r]) r := by
  have hcached : cachedRequests (rs ++ [r]) = cachedRequests rs ++ r.cached?.toList := by
    rw [cachedRequests, List.filterMap_append]
    cases r <;> rfl
  cases r with
  | compile key =>
    rw [QuerySettings.answerIn, firstContext, hcached]
    exact (h.compile key none).1
  | compileIn key context =>
    rw [QuerySettings.answerIn, firstContext, hcached]
    exact (h.compile key context).1
  | compileAnew key context => rw [answer, h.settings_eq, QuerySettings.answerIn]

theorem fst_answerAll (s : QuerySettings γ) (history : List (QueryRequest γ)) :
    (answerAll { settings := s } history).1 = history.map (s.answerIn history) := by
  induction history using List.reverseRecOn with
  | nil => rfl
  | append_singleton rs r ih =>
    -- The earlier requests have their first contexts already, and the last one cannot change them.
    have hearlier : rs.map (s.answerIn rs) = rs.map (s.answerIn (rs ++ [r])) := by
      apply List.map_congr_left
      intro r' hr'
      rw [answerIn_concat s hr' r]
    rw [answerAll_concat, List.map_append, List.map_singleton, ih, hearlier,
      fst_answer (remembers_answerAll s rs) r]

theorem snd_answerAll_filter (s : QuerySettings γ) (history : List (QueryRequest γ)) :
    (answerAll { settings := s } (history.filter fun r => r.cached?.isSome)).2 =
      (answerAll { settings := s } history).2 := by
  induction history using List.reverseRecOn with
  | nil => rfl
  | append_singleton rs r ih =>
    rw [answerAll_concat, List.filter_append]
    cases r with
    | compile key => exact (congrArg Prod.snd (answerAll_concat _ _ _)).trans (by rw [ih])
    | compileIn key context => exact (congrArg Prod.snd (answerAll_concat _ _ _)).trans (by rw [ih])
    | compileAnew key context => simpa [QueryRequest.cached?, answer] using ih

/-- After a history the compiler still has its settings and answers by the first requests. -/
structure AnswersFirst (s : QuerySettings γ) (history : List (QueryRequest γ))
    (texts : List Text) (c : QueryCompiler γ) : Prop where
  texts_eq : texts = history.map (s.answerIn history)
  settings_eq : c.settings = s
  isCached_iff : ∀ key, c.isCached key ↔ ∃ context, (key, context) ∈ cachedRequests history
  cacheSize_eq : c.cacheSize = ((cachedRequests history).map Prod.fst).toFinset.card
  /-- Requests past the cache could have been left out. -/
  eq_cached : c = (answerAll { settings := s } (history.filter fun r => r.cached?.isSome)).2
  compileAnew_eq : ∀ key context,
    c.answer (.compileAnew key context) = (s.compile key context, c)
  texts_of_ignoresContext : s.IgnoresContext →
    ∀ context, texts = history.map fun r => s.compile r.key context

/-- Every key keeps the media query that it had in the context of its first request through the cache,
whatever was asked for before and in between. -/
theorem answersFirst_answerAll (s : QuerySettings γ) (history : List (QueryRequest γ)) :
    AnswersFirst s history (answerAll { settings := s } history).1
      (answerAll { settings := s } history).2 := by
  have hremembers := remembers_answerAll s history
  have htexts := fst_answerAll s history
  have hfilter := snd_answerAll_filter s history
  generalize answerAll { settings := s } history = run at hremembers htexts hfilter ⊢
  have hkeys := hremembers.keys_cache
  exact
    { texts_eq := htexts
      settings_eq := hremembers.settings_eq
      isCached_iff := fun key => by
        rw [isCached, OrderedMap.contains_iff, hkeys, List.mem_eraseDups, List.mem_map]
        simp
      cacheSize_eq := by
        have hlength : run.2.cache.length = run.2.cache.keys.length := by simp [OrderedMap.keys]
        rw [cacheSize, hlength, hkeys, ← List.toFinset_card_of_nodup (nodup_eraseDups _)]
        congr 1
        ext key
        simp
      eq_cached := hfilter.symm
      compileAnew_eq := fun key context => by rw [answer, hremembers.settings_eq]
      texts_of_ignoresContext := fun hignores context => by
        rw [htexts]
        apply List.map_congr_left
        intro r _
        cases r with
        | compile key => exact hignores.compile_eq key _ _
        | compileIn key _ => exact hignores.compile_eq key _ _
        | compileAnew key _ => exact hignores.compile_eq key _ _ }

def hoverSettings : QuerySettings Bool where
  table := .fallback {}
  features := [("hover".toList, fun d args _ _ => d.set "hover".toList args)]

theorem hoverSettings_ignoresContext : hoverSettings.IgnoresContext := by
  intro name feature h d args key context context'
  rw [hoverSettings, OrderedMap.get?] at h
  split at h
  · obtain rfl := Option.some.inj h
    rfl
  · simp at h

theorem answerAll_hover :
    hoverSettings.IgnoresContext ∧
      (answerAll { settings := hoverSettings }
          [.compileIn "hover(none)".toList (some true), .compile "hover(none)".toList]).1 =
        ["@media all and (hover: none)".toList, "@media all and (hover: none)".toList] := by
  refine ⟨hoverSettings_ignoresContext, ?_⟩
  rw [(answersFirst_answerAll hoverSettings _).texts_of_ignoresContext
    hoverSettings_ignoresContext none]
  decide +kernel

end QueryCompiler

end ResponsiveStyles
