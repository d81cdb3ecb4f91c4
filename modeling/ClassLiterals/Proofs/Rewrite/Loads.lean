import ClassLiterals.Proofs.Rewrite.Structure

/-!
# What methods load after a rewrite

A rewrite keeps the code of every method and the places where it loads constants. A place where a
text is loaded loads it through the same indices afterwards: its replacement, if the text is visible
and has one that fits, and the entry is not shared; or else the same text. Where no text is loaded,
none is loaded afterwards.

Main result: `rewriteClass_rewritesLoads`.
-/

namespace ClassLiterals
namespace ClassFile

variable {f : VisibilityFilter} {d : Dictionary} {c : ClassFile} {p : Pool} {m : Member}

/-! ## Code -/

namespace RewrittenPool

/-- The attributes of a method are found under the same names. -/
theorem findByName?_eq (h : c.RewrittenPool f d p) (hc : c.WellFormed) (hm : m ∈ c.methods)
    (name : String) :
    Attribute.findByName? p name m.attributes = Attribute.findByName? c.pool name m.attributes := by
  rw [Attribute.findByName?, Attribute.findByName?]
  refine List.find?_congr fun a ha => ?_
  rw [Pool.text?_congr (h.slot?_of_uses hc (.attributeName (mem_allAttributes_of_method hm ha)))]

theorem code_eq (h : c.RewrittenPool f d p) (hc : c.WellFormed) (hm : m ∈ c.methods) :
    m.code p = m.code c.pool := by
  rw [Member.code, Member.code, Code.ofAttributes?, Code.ofAttributes?, h.findByName?_eq hc hm]

theorem methodLoadSites_eq (h : c.RewrittenPool f d p) (hc : c.WellFormed) (hm : m ∈ c.methods) :
    methodLoadSites p m = methodLoadSites c.pool m := by
  rw [methodLoadSites, methodLoadSites, h.code_eq hc hm]

theorem describeMethod_eq (h : c.RewrittenPool f d p) (hc : c.WellFormed) (hm : m ∈ c.methods) :
    describeMethod p m = describeMethod c.pool m := by
  have hmem : m ∈ c.members := List.mem_append_right _ hm
  rw [describeMethod, describeMethod, h.name_eq hc hmem, h.descriptor_eq hc hmem]

end RewrittenPool

/-! ## Loads -/

/-- The text that a load of `c` gives after a rewrite. The structural indices are those whose
candidates are shared. -/
def newText (f : VisibilityFilter) (d : Dictionary) (c : ClassFile) (l : Load) : String :=
  match d l.text with
  | none => l.text
  | some new =>
    if f.isVisible l.text ∧ new ≠ l.text ∧ l.textIndex ∉ c.structuralIndices ∧ Utf8.Fits new then
      new
    else l.text

/-- The entry that a load at a site takes its text from, and the string constant that it goes
through. -/
def loadTarget (pool : Pool) (site : LoadSite) : UInt16 × Option UInt16 :=
  match pool.get? site.index with
  | some (.string textIndex) => (textIndex, some site.index)
  | _ => (site.index, none)

theorem loadAt?_eq (pool : Pool) (method : String) (site : LoadSite) :
    loadAt? pool method site = if site.kind.mayLoadString then
      (pool.text? (loadTarget pool site).1).map fun text =>
        ⟨(loadTarget pool site).1, text, (loadTarget pool site).2, method⟩
    else none :=
  rfl

theorem loadTarget_of_text? {site : LoadSite} {text : String}
    (h : p.text? site.index = some text) : loadTarget p site = (site.index, none) := by
  obtain ⟨entry, hget, -⟩ := Pool.text?_eq_some_iff.1 h
  rw [loadTarget, hget]

namespace RewrittenPool

/-- A loaded entry has its new text. -/
theorem text?_eq_newText (h : c.RewrittenPool f d p) {l : Load} (hl : l ∈ c.loads) :
    p.text? l.textIndex = some (c.newText f d l) := by
  -- What is rewritten at the entry is rewritten for the text of this load.
  have hrewrites : ∀ new, c.Rewrites f d l.textIndex new ↔ d l.text = some new ∧
      f.isVisible l.text ∧ new ≠ l.text ∧ l.textIndex ∉ c.structuralIndices ∧ Utf8.Fits new := by
    intro new
    constructor
    · rintro ⟨⟨k, hk, hindex, hvisible, hd, hne⟩, hunshared, hfits⟩
      rw [text_eq_of_mem_loads hk hl hindex] at hvisible hd hne
      exact ⟨hd, hvisible, hne, hunshared, hfits⟩
    · rintro ⟨hd, hvisible, hne, hunshared, hfits⟩
      exact ⟨⟨l, hl, rfl, hvisible, hd, hne⟩, hunshared, hfits⟩
  have hkept (hnot : ¬ ∃ new, c.Rewrites f d l.textIndex new) :
      p.text? l.textIndex = some l.text := by
    rw [h.text?_of_not_rewrites hnot, text?_of_mem_loads hl]
  rw [newText]
  cases hd : d l.text with
  | none =>
    refine hkept fun ⟨new, hnew⟩ => ?_
    rw [hrewrites, hd] at hnew
    cases hnew.1
  | some text =>
    dsimp only
    split_ifs with hcond
    · exact h.text?_of_rewrites ((hrewrites text).2 ⟨hd, hcond⟩)
    · refine hkept fun ⟨new, hnew⟩ => ?_
      rw [hrewrites, hd] at hnew
      obtain ⟨heq, hnew⟩ := hnew
      cases heq
      exact hcond hnew

/-- Texts stay texts. -/
theorem exists_text? (h : c.RewrittenPool f d p) {i : UInt16} {text : String}
    (hi : c.pool.text? i = some text) : ∃ new, p.text? i = some new := by
  by_cases hrewrites : ∃ new, c.Rewrites f d i new
  · obtain ⟨new, hnew⟩ := hrewrites
    exact ⟨new, h.text?_of_rewrites hnew⟩
  · exact ⟨text, (h.text?_of_not_rewrites hrewrites).trans hi⟩

/-- A load goes through the same indices. -/
theorem loadTarget_eq (h : c.RewrittenPool f d p) (site : LoadSite) :
    loadTarget p site = loadTarget c.pool site := by
  cases htext : c.pool.text? site.index with
  | none => rw [loadTarget, loadTarget, Pool.get?_congr (h.slot?_of_text?_eq_none htext)]
  | some text =>
    obtain ⟨new, hnew⟩ := h.exists_text? htext
    rw [loadTarget_of_text? htext, loadTarget_of_text? hnew]

/-- A load site of a method loads what it loaded, with the new text. -/
theorem loadAt?_eq_map (h : c.RewrittenPool f d p) (hc : c.WellFormed) (hm : m ∈ c.methods)
    {sites : List LoadSite} (hsites : methodLoadSites c.pool m = .ok sites) {site : LoadSite}
    (hsite : site ∈ sites) :
    loadAt? p (describeMethod p m) site =
      (loadAt? c.pool (describeMethod c.pool m) site).map fun l =>
        { l with text := c.newText f d l } := by
  rw [h.describeMethod_eq hc hm]
  cases hl : loadAt? c.pool (describeMethod c.pool m) site with
  | some l =>
    have hmem : l ∈ c.loads := mem_loads.2 ⟨m, hm, sites, hsites, site, hsite, hl⟩
    have htext := h.text?_eq_newText hmem
    rw [loadAt?_eq] at hl ⊢
    split_ifs at hl ⊢ with hkind
    obtain ⟨text, -, rfl⟩ := Option.map_eq_some_iff.1 hl
    rw [h.loadTarget_eq, htext]
    rfl
  | none =>
    rw [loadAt?_eq] at hl ⊢
    split_ifs at hl ⊢ with hkind
    · rw [Option.map_eq_none_iff] at hl
      rw [h.loadTarget_eq, Pool.text?_congr (h.slot?_of_text?_eq_none hl), hl]
      rfl
    · rfl

end RewrittenPool

/-- The methods of `c'` load what those of `c` load, with the new texts. -/
structure RewritesLoads (f : VisibilityFilter) (d : Dictionary) (c c' : ClassFile) : Prop where
  methods : c'.methods = c.methods
  /-- The code of a method is the same, be it code, none or an error. -/
  code : ∀ m ∈ c.methods, m.code c'.pool = m.code c.pool
  /-- The load sites of a method are the same, or the scan fails alike. -/
  sites : ∀ m ∈ c.methods, methodLoadSites c'.pool m = methodLoadSites c.pool m
  /-- A site gives the new text of its load, through the same indices. Without a load there is none
  afterwards. -/
  loads : ∀ m ∈ c.methods, ∀ sites, methodLoadSites c.pool m = .ok sites → ∀ site ∈ sites,
    loadAt? c'.pool (describeMethod c'.pool m) site =
      (loadAt? c.pool (describeMethod c.pool m) site).map fun l =>
        { l with text := c.newText f d l }

theorem RewrittenPool.rewritesLoads (h : c.RewrittenPool f d p) (hc : c.WellFormed) :
    RewritesLoads f d c { c with pool := p } where
  methods := rfl
  code _ hm := h.code_eq hc hm
  sites _ hm := h.methodLoadSites_eq hc hm
  loads _ hm _ hsites _ hsite := h.loadAt?_eq_map hc hm hsites hsite

/-- **The meaning of a rewrite at every load site.**  A rewrite of a class that can be read gives a
class that can be read, in which every method loads what it loaded, with the new texts. -/
theorem rewriteClass_rewritesLoads {bs : Bytes} (h : parse bs = .ok c) (f : VisibilityFilter)
    (d : Dictionary) :
    ∃ r c', rewriteClass f d bs = .ok r ∧ parse r.bytes = .ok c' ∧ RewritesLoads f d c c' := by
  obtain ⟨r, p, hr, hparse, hpool⟩ := rewriteClass_of_parse h f d
  exact ⟨r, { c with pool := p }, hr, hparse, hpool.rewritesLoads (parse_eq_ok_iff.1 h).1⟩

theorem rewriteClass_rewritesLoads_greeting :
    parse greeting.toBytes = .ok greeting ∧
      greeting.loads.map (newText ⟨2, []⟩ french greeting) =
        ["Bonjour à tous", "Bonjour à tous", "run", "title", "Main.java"] ∧
      ∃ r c', rewriteClass ⟨2, []⟩ french greeting.toBytes = .ok r ∧ parse r.bytes = .ok c' ∧
        RewritesLoads ⟨2, []⟩ french greeting c' :=
  ⟨by decide +kernel, by decide +kernel,
    rewriteClass_rewritesLoads (by decide +kernel) ⟨2, []⟩ french⟩

end ClassFile
end ClassLiterals
