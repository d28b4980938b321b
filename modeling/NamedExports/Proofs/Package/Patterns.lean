import Mathlib.Data.Prod.Lex
import NamedExports.Proofs.Package.Targets

/-!
# Patterns of subpaths

A pattern matches a key if some text can stand for its first `*` in the key.  Two patterns that match
one key are cut out of the same text, so the lengths of what stands before and behind their `*` tell
them apart: `eq_of_byteRank_eq`.  So among the patterns that match a key one is the most specific,
whatever their order, and its target is the one that is followed: `ofExports?_most_specific`.
-/

namespace NamedExports.Package

open Json (Value)

variable {key : List Char} {pattern other : String} {wildcard text : List Char}

/-! ## Matches -/

/-- A text put in place of the first `*` of a pattern makes a key of it. -/
def StandsFor (key pattern wildcard : List Char) : Prop :=
  ∃ start ending, '*' ∉ start ∧ pattern = start ++ '*' :: ending ∧
    key = start ++ wildcard ++ ending

/-- The match gives the part of the key that the wildcard stands for. -/
theorem matchPattern?_eq_some_iff {pattern : List Char} :
    matchPattern? key pattern = some wildcard ↔ StandsFor key pattern wildcard := by
  simp only [matchPattern?, Option.bind_eq_some_iff, Prod.exists, Text.splitOnce_eq_some_iff,
    Text.stripStart_eq_some_iff, Text.stripEnd_eq_some_iff, StandsFor]
  constructor
  · rintro ⟨start, ending, ⟨hpattern, hstart⟩, rest, hkey, rfl⟩
    exact ⟨start, ending, hstart, hpattern, by rw [hkey, List.append_assoc]⟩
  · rintro ⟨start, ending, hstart, hpattern, hkey⟩
    exact ⟨start, ending, ⟨hpattern, hstart⟩, wildcard ++ ending,
      by rw [hkey, List.append_assoc], rfl⟩

/-- A key does not match exactly if the wildcard stands for no part of it. -/
theorem matchPattern?_eq_none_iff {pattern : List Char} :
    matchPattern? key pattern = none ↔ ∀ wildcard, ¬ StandsFor key pattern wildcard := by
  simp only [← matchPattern?_eq_some_iff, Option.eq_none_iff_forall_ne_some, ne_eq]

/-- One text at most stands for the `*` of a pattern. -/
theorem StandsFor.unique {pattern : List Char} (h : StandsFor key pattern wildcard)
    (h' : StandsFor key pattern text) : wildcard = text :=
  Option.some.inj ((matchPattern?_eq_some_iff.mpr h).symm.trans (matchPattern?_eq_some_iff.mpr h'))

/-! ## Ranks -/

/-- The length of a text in bytes. -/
def bytes (text : List Char) : Nat := (String.ofList text).utf8ByteSize

@[simp] theorem bytes_append (front back : List Char) :
    bytes (front ++ back) = bytes front + bytes back := by
  rw [bytes, String.ofList_append, String.utf8ByteSize_append, bytes, bytes]

theorem bytes_cons (c : Char) (text : List Char) : bytes (c :: text) = c.utf8Size + bytes text := by
  rw [← List.singleton_append, bytes_append, bytes, ← String.singleton_eq_ofList,
    String.utf8ByteSize_singleton]

/-- Each character that one text has more than another has at least one byte. -/
theorem length_add_bytes_le {front back : List Char} (h : front.Sublist back) :
    back.length + bytes front ≤ front.length + bytes back := by
  induction h with
  | slnil => exact le_refl _
  | cons c h ih =>
    have := c.utf8Size_pos
    rw [List.length_cons, bytes_cons]
    omega
  | cons_cons c h ih =>
    rw [List.length_cons, List.length_cons, bytes_cons, bytes_cons]
    omega

/-- How specific a pattern is: its length before its first `*`, then its whole length, in bytes. -/
def byteRank (pattern : String) : Nat ×ₗ Nat :=
  toLex (bytes (pattern.toList.takeWhile (· != '*')), bytes pattern.toList)

/-- How specific a pattern is by its characters. -/
def charRank (pattern : String) : Nat ×ₗ Nat := toLex (rank pattern)

/-- The order in which patterns are tried is that of their ranks. -/
theorem atMost_iff : atMost pattern other = true ↔ charRank pattern ≤ charRank other := by
  simp only [atMost, charRank, Prod.Lex.toLex_le_toLex, Bool.or_eq_true, Bool.and_eq_true,
    decide_eq_true_eq, beq_iff_eq]

/-- What stands before the first `*` of a pattern. -/
theorem takeWhile_of_not_mem {start ending : List Char} (h : '*' ∉ start) :
    (start ++ '*' :: ending).takeWhile (· != '*') = start := by
  rw [List.takeWhile_append_of_pos, List.takeWhile_cons_of_neg (by simp), List.append_nil]
  exact fun c hc => bne_iff_ne.mpr fun heq => h (heq ▸ hc)

/-- The ranks of a pattern are read from what stands before and behind its `*`. -/
theorem ranks_of_pattern {start ending : List Char} (hstart : '*' ∉ start)
    (hpattern : pattern.toList = start ++ '*' :: ending) :
    charRank pattern = toLex (start.length, start.length + (ending.length + 1)) ∧
      byteRank pattern = toLex (bytes start, bytes start + (bytes ['*'] + bytes ending)) := by
  rw [charRank, rank, byteRank, hpattern, takeWhile_of_not_mem hstart, List.length_append,
    List.length_cons, bytes_append, ← List.singleton_append, bytes_append]
  exact ⟨rfl, rfl⟩

/-- A pattern that matches a key is cut out of it: what stands before its `*` begins the key, and what
stands behind it ends the key.  Its ranks are read from both. -/
theorem StandsFor.exists_parts (h : StandsFor key pattern.toList wildcard) :
    ∃ start ending, pattern.toList = start ++ '*' :: ending ∧ start <+: key ∧ ending <:+ key ∧
      charRank pattern = toLex (start.length, start.length + (ending.length + 1)) ∧
      byteRank pattern = toLex (bytes start, bytes start + (bytes ['*'] + bytes ending)) := by
  obtain ⟨start, ending, hstart, hpattern, hkey⟩ := h
  refine ⟨start, ending, hpattern, ⟨wildcard ++ ending, ?_⟩, ⟨start ++ wildcard, hkey.symm⟩,
    ranks_of_pattern hstart hpattern⟩
  rw [hkey, List.append_assoc]

section

variable (h : StandsFor key pattern.toList wildcard) (h' : StandsFor key other.toList text)

include h h'

/-- The more specific of two patterns that match one key has more characters where it counts, and
more bytes. -/
theorem byteRank_lt_of_charRank_lt (hlt : charRank pattern < charRank other) :
    byteRank pattern < byteRank other := by
  obtain ⟨start, ending, -, hfront, hback, hchars, hbytes⟩ := h.exists_parts
  obtain ⟨start', ending', -, hfront', hback', hchars', hbytes'⟩ := h'.exists_parts
  rw [hchars, hchars', Prod.Lex.toLex_lt_toLex] at hlt
  rw [hbytes, hbytes', Prod.Lex.toLex_lt_toLex]
  rcases hlt with hlonger | ⟨hsame, hlonger⟩
  · dsimp only at hlonger
    have := length_add_bytes_le
      (List.prefix_of_prefix_length_le hfront hfront' hlonger.le).sublist
    exact Or.inl (by dsimp only; omega)
  · -- the beginnings are equal, so the ends decide
    obtain rfl : start = start' :=
      (List.prefix_of_prefix_length_le hfront hfront' hsame.le).eq_of_length hsame
    have hends : ending.length < ending'.length := by
      dsimp only at hlonger
      omega
    have := length_add_bytes_le (List.suffix_of_suffix_length_le hback hback' hends.le).sublist
    exact Or.inr ⟨rfl, by dsimp only; omega⟩

/-- Two patterns that match one key and have the same lengths are the same. -/
theorem eq_of_charRank_eq (heq : charRank pattern = charRank other) : pattern = other := by
  obtain ⟨start, ending, hpattern, hfront, hback, hchars, -⟩ := h.exists_parts
  obtain ⟨start', ending', hpattern', hfront', hback', hchars', -⟩ := h'.exists_parts
  rw [hchars, hchars', EmbeddingLike.apply_eq_iff_eq, Prod.mk.injEq] at heq
  obtain ⟨hlength, htotal⟩ := heq
  have hends : ending.length = ending'.length := by omega
  obtain rfl : start = start' :=
    (List.prefix_of_prefix_length_le hfront hfront' hlength.le).eq_of_length hlength
  obtain rfl : ending = ending' :=
    (List.suffix_of_suffix_length_le hback hback' hends.le).eq_of_length hends
  exact String.toList_injective (hpattern.trans hpattern'.symm)

/-- Two patterns that match one key and have the same lengths in bytes are the same. -/
theorem eq_of_byteRank_eq (heq : byteRank pattern = byteRank other) : pattern = other := by
  rcases lt_trichotomy (charRank pattern) (charRank other) with hlt | hsame | hlt
  · exact absurd heq (byteRank_lt_of_charRank_lt h h' hlt).ne
  · exact eq_of_charRank_eq h h' hsame
  · exact absurd heq (byteRank_lt_of_charRank_lt h' h hlt).ne'

/-- A pattern that is at most as specific as another one that matches the same key is the same, or
has fewer bytes. -/
theorem eq_or_byteRank_lt_of_atMost (hle : atMost pattern other = true) :
    pattern = other ∨ byteRank pattern < byteRank other := by
  rcases (atMost_iff.mp hle).eq_or_lt with hsame | hlt
  · exact Or.inl (eq_of_charRank_eq h h' hsame)
  · exact Or.inr (byteRank_lt_of_charRank_lt h h' hlt)

end

/-! ## The most specific pattern -/

/-- A pattern matches a key, with a text for its `*`, and all others that match it are less
specific. -/
structure MostSpecific (key : List Char) (patterns : List String) (pattern : String)
    (wildcard : List Char) : Prop where
  mem : pattern ∈ patterns
  standsFor : StandsFor key pattern.toList wildcard
  above : ∀ other ∈ patterns, ∀ text, StandsFor key other.toList text →
    other = pattern ∨ byteRank other < byteRank pattern

variable {patterns others : List String}

/-- There is one most specific pattern at most. -/
theorem MostSpecific.unique (h : MostSpecific key patterns pattern wildcard)
    (h' : MostSpecific key patterns other text) : pattern = other ∧ wildcard = text := by
  have hpattern : pattern = other := by
    rcases h.above other h'.mem text h'.standsFor with heq | hlt
    · exact heq.symm
    · rcases h'.above pattern h.mem wildcard h.standsFor with heq | hlt'
      · exact heq
      · exact absurd hlt hlt'.asymm
  subst hpattern
  exact ⟨rfl, h.standsFor.unique h'.standsFor⟩

/-- Which pattern is the most specific does not depend on their order. -/
theorem MostSpecific.congr (hsame : ∀ pattern, pattern ∈ patterns ↔ pattern ∈ others)
    (h : MostSpecific key patterns pattern wildcard) : MostSpecific key others pattern wildcard where
  mem := (hsame pattern).mp h.mem
  standsFor := h.standsFor
  above other hmem := h.above other ((hsame other).mpr hmem)

/-- A pattern that does not match, or is less specific, changes nothing about the choice. -/
theorem MostSpecific.cons {first : String} (h : MostSpecific key patterns pattern wildcard)
    (hfirst : ∀ text, StandsFor key first.toList text →
      first = pattern ∨ byteRank first < byteRank pattern) :
    MostSpecific key (first :: patterns) pattern wildcard where
  mem := List.mem_cons_of_mem first h.mem
  standsFor := h.standsFor
  above := List.forall_mem_cons.mpr ⟨hfirst, h.above⟩

/-- A pattern that matches is chosen before others that do not match or are less specific. -/
theorem StandsFor.mostSpecific_cons (h : StandsFor key pattern.toList wildcard)
    (hrest : ∀ other ∈ patterns, ∀ text, StandsFor key other.toList text →
      other = pattern ∨ byteRank other < byteRank pattern) :
    MostSpecific key (pattern :: patterns) pattern wildcard where
  mem := List.mem_cons_self
  standsFor := h
  above := List.forall_mem_cons.mpr ⟨fun _ _ => Or.inl rfl, hrest⟩

/-- There is no best pattern exactly if none matches. -/
theorem bestPattern?_eq_none_iff : bestPattern? key patterns = none ↔
    ∀ pattern ∈ patterns, ∀ wildcard, ¬ StandsFor key pattern.toList wildcard := by
  induction patterns with
  | nil => simp [bestPattern?]
  | cons first rest ih =>
    rw [List.forall_mem_cons, ← ih, ← matchPattern?_eq_none_iff, bestPattern?]
    cases matchPattern? key first.toList with
    | none => simp
    | some wildcard =>
      cases bestPattern? key rest with
      | none => simp
      | some best =>
        dsimp only
        split <;> simp

/-- What is chosen is the most specific. -/
theorem mostSpecific_of_bestPattern? (h : bestPattern? key patterns = some (pattern, wildcard)) :
    MostSpecific key patterns pattern wildcard := by
  induction patterns generalizing pattern wildcard with
  | nil => cases h
  | cons first rest ih =>
    rw [bestPattern?] at h
    cases hfirst : matchPattern? key first.toList with
    | none =>
      rw [hfirst] at h
      exact (ih h).cons fun text htext => absurd htext (matchPattern?_eq_none_iff.mp hfirst text)
    | some here =>
      have hhere := matchPattern?_eq_some_iff.mp hfirst
      rw [hfirst] at h
      cases hrest : bestPattern? key rest with
      | none =>
        rw [hrest] at h
        obtain ⟨rfl, rfl⟩ : first = pattern ∧ here = wildcard := by simpa using h
        exact hhere.mostSpecific_cons fun other hmem text htext =>
          absurd htext (bestPattern?_eq_none_iff.mp hrest other hmem text)
      | some best =>
        obtain ⟨top, there⟩ := best
        have hbest := ih hrest
        rw [hrest] at h
        dsimp only at h
        split at h
        · rename_i hle
          obtain ⟨rfl, rfl⟩ : top = pattern ∧ there = wildcard := by simpa using h
          exact hbest.cons fun _ _ => eq_or_byteRank_lt_of_atMost hhere hbest.standsFor hle
        · rename_i hgt
          obtain ⟨rfl, rfl⟩ : first = pattern ∧ here = wildcard := by simpa using h
          have hlt : byteRank top < byteRank first :=
            byteRank_lt_of_charRank_lt hbest.standsFor hhere
              (not_le.mp fun hle => hgt (atMost_iff.mpr hle))
          refine hhere.mostSpecific_cons fun other hmem text htext => Or.inr ?_
          rcases hbest.above other hmem text htext with rfl | hbelow
          · exact hlt
          · exact hbelow.trans hlt

/-- The best pattern is the most specific one that matches. -/
theorem bestPattern?_eq_some_iff : bestPattern? key patterns = some (pattern, wildcard) ↔
    MostSpecific key patterns pattern wildcard := by
  refine ⟨mostSpecific_of_bestPattern?, fun h => ?_⟩
  cases hbest : bestPattern? key patterns with
  | none => exact absurd h.standsFor (bestPattern?_eq_none_iff.mp hbest pattern h.mem wildcard)
  | some best =>
    obtain ⟨rfl, rfl⟩ := (mostSpecific_of_bestPattern? hbest).unique h
    rfl

/-- The choice does not depend on the order of the patterns. -/
theorem bestPattern?_congr (hsame : ∀ pattern, pattern ∈ patterns ↔ pattern ∈ others) :
    bestPattern? key patterns = bestPattern? key others := by
  refine Option.ext fun best => ?_
  rw [bestPattern?_eq_some_iff, bestPattern?_eq_some_iff]
  exact ⟨.congr hsame, .congr fun pattern => (hsame pattern).symm⟩

/-! ## The target that is followed -/

variable {members others : List (String × Value)} {subpath : Option String}

/-- A map is one of subpaths exactly if a key starts with a dot. -/
theorem mapsSubpaths_iff : mapsSubpaths members = true ↔
    ∃ key ∈ members.map Prod.fst, ['.'].isPrefixOf key.toList = true := by
  simp only [mapsSubpaths, List.any_eq_true, List.mem_map, exists_exists_and_eq_and]

/-- Without an exact entry, the exports follow the target of the most specific pattern. -/
theorem ofExports?_eq_bestPattern? (lookup : Lookup) (hmaps : mapsSubpaths members = true)
    (hexact : Value.lastMember? (exportKey subpath) members = none) :
    ofExports? lookup subpath (.object members) =
      (bestPattern? (exportKey subpath).toList (members.map Prod.fst)).bind
        fun (pattern, wildcard) =>
          (Value.lastMember? pattern members).bind (lookup.target? (some wildcard)) := by
  have hkeys : bestPattern? (exportKey subpath).toList (Value.object members).keys =
      bestPattern? (exportKey subpath).toList (members.map Prod.fst) :=
    bestPattern?_congr fun _ => Value.mem_keys_object_iff
  rw [ofExports?, if_pos hmaps, ofSubpath?, hexact, ← hkeys]

/-- Reordered exports lead to the same file, if they map subpaths. -/
theorem ofExports?_reordered (lookup : Lookup)
    (h : (Value.object members).Reordered (.object others)) (hmaps : mapsSubpaths members = true)
    (hexact : Value.lastMember? (exportKey subpath) members = none) :
    ofExports? lookup subpath (.object members) = ofExports? lookup subpath (.object others) := by
  have hkeys := h.mem_keys_iff
  have hmaps' : mapsSubpaths others = true := by
    rw [mapsSubpaths_iff] at hmaps ⊢
    simpa only [hkeys] using hmaps
  have hexact' : Value.lastMember? (exportKey subpath) others = none := by
    rw [← Option.not_isSome_iff_eq_none, Value.isSome_lastMember?_iff] at hexact ⊢
    rwa [← hkeys]
  rw [ofExports?_eq_bestPattern? lookup hmaps hexact,
    ofExports?_eq_bestPattern? lookup hmaps' hexact', bestPattern?_congr hkeys]
  exact Option.bind_congr fun best _ =>
    h.bind_lastMember? (fun _ _ => lookup.target?_reordered (some best.2)) best.1

/-- If exports map subpaths and list none of them exactly as wanted, the target of the one most
specific pattern that matches is followed, whatever the order of the entries.  The text that stands
for the `*` of a pattern makes the wanted key of it, and no two patterns that match are equally
specific. -/
theorem ofExports?_most_specific (lookup : Lookup) {key : List Char}
    (hkey : (exportKey subpath).toList = key) (hmaps : mapsSubpaths members = true)
    (hexact : Value.lastMember? (exportKey subpath) members = none) :
    (∀ pattern wildcard,
        matchPattern? key pattern = some wildcard ↔ StandsFor key pattern wildcard) ∧
      (∀ pattern ∈ members.map Prod.fst, ∀ other ∈ members.map Prod.fst, pattern ≠ other →
        (matchPattern? key pattern.toList).isSome → (matchPattern? key other.toList).isSome →
        byteRank pattern ≠ byteRank other) ∧
      ((∀ pattern ∈ members.map Prod.fst, matchPattern? key pattern.toList = none) ∧
          ofExports? lookup subpath (.object members) = none ∨
        ∃ pattern wildcard target, MostSpecific key (members.map Prod.fst) pattern wildcard ∧
          (∀ other text, MostSpecific key (members.map Prod.fst) other text →
            other = pattern ∧ text = wildcard) ∧
          Value.lastMember? pattern members = some target ∧
          ofExports? lookup subpath (.object members) = lookup.target? (some wildcard) target) ∧
      (∀ patterns, (∀ pattern, pattern ∈ patterns ↔ pattern ∈ members.map Prod.fst) →
        bestPattern? key patterns = bestPattern? key (members.map Prod.fst)) ∧
      ∀ others, (Value.object members).Reordered (.object others) →
        ofExports? lookup subpath (.object others) =
          ofExports? lookup subpath (.object members) := by
  subst hkey
  have hfollowed := ofExports?_eq_bestPattern? lookup hmaps hexact
  refine ⟨fun _ _ => matchPattern?_eq_some_iff, ?_, ?_, fun _ => bestPattern?_congr,
    fun _ h => (ofExports?_reordered lookup h hmaps hexact).symm⟩
  · intro pattern _ other _ hne hpattern hother heq
    obtain ⟨wildcard, hwildcard⟩ := Option.isSome_iff_exists.mp hpattern
    obtain ⟨text, htext⟩ := Option.isSome_iff_exists.mp hother
    exact hne (eq_of_byteRank_eq (matchPattern?_eq_some_iff.mp hwildcard)
      (matchPattern?_eq_some_iff.mp htext) heq)
  · cases hbest : bestPattern? (exportKey subpath).toList (members.map Prod.fst) with
    | none =>
      rw [hbest] at hfollowed
      refine Or.inl ⟨fun pattern hmem => ?_, hfollowed⟩
      exact matchPattern?_eq_none_iff.mpr (bestPattern?_eq_none_iff.mp hbest pattern hmem)
    | some best =>
      obtain ⟨pattern, wildcard⟩ := best
      have hmost := mostSpecific_of_bestPattern? hbest
      obtain ⟨target, htarget⟩ :=
        Option.isSome_iff_exists.mp (Value.isSome_lastMember?_iff.mpr hmost.mem)
      rw [hbest] at hfollowed
      refine Or.inr ⟨pattern, wildcard, target, hmost, fun _ _ h => h.unique hmost, htarget, ?_⟩
      rw [hfollowed, Option.bind_some]
      dsimp only
      rw [htarget, Option.bind_some]

/-- Exports with patterns that overlap in a letter of two bytes. -/
def layeredExports : List (String × Value) :=
  [(".", .string "./index.js"), ("./*", .string "./any/*.js"), ("./*a.js", .string "./end/*.js"),
    ("./é*.js", .string "./both/*.js"), ("./é*", .string "./start/*.js")]

/-- Of four patterns that match the most specific one is followed, from either end of the list. -/
theorem ofExports?_layered :
    mapsSubpaths layeredExports = true ∧
      Value.lastMember? (exportKey (some "éa.js")) layeredExports = none ∧
      MostSpecific "./éa.js".toList (layeredExports.map Prod.fst) "./é*.js" ['a'] ∧
      ofExports? ⟨fun _ => true, [], "/pkg"⟩ (some "éa.js") (.object layeredExports) =
        some "/pkg/./both/a.js" ∧
      ofExports? ⟨fun _ => true, [], "/pkg"⟩ (some "éa.js") (.object layeredExports.reverse) =
        some "/pkg/./both/a.js" := by
  have hmaps : mapsSubpaths layeredExports = true := by decide
  have hexact : Value.lastMember? (exportKey (some "éa.js")) layeredExports = none := by
    decide +kernel
  have hbest : bestPattern? "./éa.js".toList (layeredExports.map Prod.fst) =
      some ("./é*.js", ['a']) := by
    decide +kernel
  have hmost := mostSpecific_of_bestPattern? hbest
  have hkey : (exportKey (some "éa.js")).toList = "./éa.js".toList := by decide +kernel
  obtain ⟨-, -, hchoice, -, hreordered⟩ :=
    ofExports?_most_specific ⟨fun _ => true, [], "/pkg"⟩ hkey hmaps hexact
  have hfollowed : ofExports? ⟨fun _ => true, [], "/pkg"⟩ (some "éa.js")
      (.object layeredExports) = some "/pkg/./both/a.js" := by
    rcases hchoice with ⟨hnone, -⟩ | ⟨pattern, wildcard, target, -, hunique, htarget, hfile⟩
    · exact absurd hmost.standsFor
        (matchPattern?_eq_none_iff.mp (hnone "./é*.js" hmost.mem) ['a'])
    · obtain ⟨rfl, rfl⟩ := hunique _ _ hmost
      obtain rfl : Value.string "./both/*.js" = target := Option.some.inj htarget
      rw [hfile]
      decide +kernel
  refine ⟨hmaps, hexact, hmost, hfollowed, ?_⟩
  rw [hreordered _ (.of_perm layeredExports.reverse_perm.symm (by decide)), hfollowed]

end NamedExports.Package
