import ExtractionSchema.Proofs.Wire.Grammar
import ExtractionSchema.Proofs.Wire.Written

/-!
# Trees that agree apart from some keys

Two trees agree apart from some keys when they have the same shape, down to the names and the
required names, and say the same at every node under all other keys. So do two documents, where a
node of an unknown type may say anything under keys that are not its own. What is read from such
documents are such trees.

* `Node.AgreeApart` relates nodes, `NodesAgreeApart` the documents that they stand for.
* `Tree.agreeApart_of_ofValue` goes from documents to trees.
-/

namespace ExtractionSchema.Wire

variable {keys : List String}

/-! ## Trees -/

/-- Presentations that say the same under all keys but some. -/
structure Presentation.AgreeApart (keys : List String) (about about' : Presentation) : Prop where
  title : "title" ∉ keys → about.title = about'.title
  description : "description" ∉ keys → about.description = about'.description
  importance : "importance" ∉ keys → about.importance = about'.importance
  instructions : "extractionInstructions" ∉ keys → about.instructions = about'.instructions
  displayName : "displayName" ∉ keys → about.displayName = about'.displayName
  examples : "examples" ∉ keys → about.examples = about'.examples
  enum : "enum" ∉ keys → about.enum = about'.enum
  order : "order" ∉ keys → about.order = about'.order

/-- Constraints that say the same under all keys but some. -/
structure Bounds.AgreeApart (keys : List String) (limits limits' : Bounds) : Prop where
  format : "format" ∉ keys → limits.format = limits'.format
  minLength : "minLength" ∉ keys → limits.minLength = limits'.minLength
  maxLength : "maxLength" ∉ keys → limits.maxLength = limits'.maxLength
  minimum : "minimum" ∉ keys → limits.minimum = limits'.minimum
  maximum : "maximum" ∉ keys → limits.maximum = limits'.maximum

mutual

/-- Nodes of one shape that say the same under all keys but some, at any depth; what a node of an
unknown type keeps of its document may differ. -/
inductive Node.AgreeApart (keys : List String) : Node → Node → Prop
  | primitive {about about' : Presentation} {kind : Primitive} {limits limits' : Bounds}
      (habout : about.AgreeApart keys about') (hlimits : limits.AgreeApart keys limits') :
      Node.AgreeApart keys (.primitive about kind limits) (.primitive about' kind limits')
  | array {about about' : Presentation} {items items' : Node}
      (habout : about.AgreeApart keys about') (hitems : Node.AgreeApart keys items items') :
      Node.AgreeApart keys (.array about items) (.array about' items')
  | object {about about' : Presentation} {kids kids' : List (String × Node)}
      {required : List String} {more more' : Option Bool}
      (habout : about.AgreeApart keys about') (hkids : KidsAgreeApart keys kids kids')
      (hmore : "additionalProperties" ∉ keys → more = more') :
      Node.AgreeApart keys (.object about kids required more) (.object about' kids' required more')
  | unknown {about about' : Presentation} {type : String} {raw raw' : List (String × Value)}
      (habout : about.AgreeApart keys about') :
      Node.AgreeApart keys (.unknown about type raw) (.unknown about' type raw')

/-- Children under the same names, one by one, that agree apart from some keys. -/
inductive KidsAgreeApart (keys : List String) : List (String × Node) → List (String × Node) → Prop
  | nil : KidsAgreeApart keys [] []
  | cons {name : String} {kid kid' : Node} {kids kids' : List (String × Node)}
      (hfirst : Node.AgreeApart keys kid kid') (hrest : KidsAgreeApart keys kids kids') :
      KidsAgreeApart keys ((name, kid) :: kids) ((name, kid') :: kids')

end

theorem KidsAgreeApart.map_fst {kids kids' : Properties} (h : KidsAgreeApart keys kids kids') :
    kids.map (·.1) = kids'.map (·.1) := by
  induction kids generalizing kids' with
  | nil =>
    cases h
    rfl
  | cons kid kids ih =>
    cases h with
    | cons _ hrest => simp only [List.map_cons, ih hrest]

/-! ## Documents -/

/-- Objects that say the same under some keys, apart from others. -/
def AgreeUnder (stated keys : List String) (es fs : Value.Entries) : Prop :=
  ∀ key ∈ stated, key ∉ keys → Value.getD es key = Value.getD fs key

mutual

/-- Nodes of documents that have the same type and say the same under all keys of that type but
some, at any depth. -/
inductive NodesAgreeApart (keys : List String) : Value → Value → Prop
  | primitive {es fs : Value.Entries} {kind : Primitive}
      (htype : Value.getD es "type" = .string kind.name)
      (htype' : Value.getD fs "type" = .string kind.name)
      (hstated : AgreeUnder (presentationKeys ++ boundsKeys) keys es fs) :
      NodesAgreeApart keys (.object es) (.object fs)
  | array {es fs : Value.Entries} {v w : Value}
      (htype : Value.getD es "type" = .string arrayType)
      (htype' : Value.getD fs "type" = .string arrayType)
      (hstated : AgreeUnder presentationKeys keys es fs)
      (hlookup : Value.lookup (.name "items") es = some v)
      (hlookup' : Value.lookup (.name "items") fs = some w) (hitems : NodesAgreeApart keys v w) :
      NodesAgreeApart keys (.object es) (.object fs)
  | object {es fs : Value.Entries}
      (htype : Value.getD es "type" = .string objectType)
      (htype' : Value.getD fs "type" = .string objectType)
      (hstated : AgreeUnder (presentationKeys ++ ["additionalProperties"]) keys es fs)
      (hrequired : statedNames es = statedNames fs)
      (hchildren : ChildrenAgreeApart keys (members es) (members fs)) :
      NodesAgreeApart keys (.object es) (.object fs)
  | unknown {es fs : Value.Entries} {type : String}
      (htype : Value.getD es "type" = .string type)
      (htype' : Value.getD fs "type" = .string type)
      (hname : Primitive.ofName? type = none) (harray : type ≠ arrayType)
      (hobject : type ≠ objectType) (hstated : AgreeUnder presentationKeys keys es fs) :
      NodesAgreeApart keys (.object es) (.object fs)

/-- Entries under the same keys, one by one, whose nodes agree apart from some keys. -/
inductive ChildrenAgreeApart (keys : List String) :
    List (Key × Value) → List (Key × Value) → Prop
  | nil : ChildrenAgreeApart keys [] []
  | cons {key : Key} {v w : Value} {es fs : List (Key × Value)} (hfirst : NodesAgreeApart keys v w)
      (hrest : ChildrenAgreeApart keys es fs) :
      ChildrenAgreeApart keys ((key, v) :: es) ((key, w) :: fs)

end

/-! ## Reading -/

section Fields

variable {es fs : Value.Entries}

/-- What is read of one key is the same where the same is said. -/
theorem detail_eq_of_getD {α : Type} {key name : String} {read : Value → Checked α}
    {o o' : Option α} (heq : Value.getD es key = Value.getD fs key)
    (ho : detail key name read es = .ok o) (ho' : detail key name read fs = .ok o') : o = o' := by
  rw [detail, heq] at ho
  rw [detail] at ho'
  exact Checked.ok.inj (ho.symm.trans ho')

theorem AgreeUnder.presentation {about about' : Presentation}
    (h : AgreeUnder presentationKeys keys es fs) (habout : presentation es = .ok about)
    (habout' : presentation fs = .ok about') : about.AgreeApart keys about' := by
  obtain ⟨h1, h2, h3, h4, h5, h6, h7, h8⟩ := presentation_eq_ok_iff.mp habout
  obtain ⟨h1', h2', h3', h4', h5', h6', h7', h8'⟩ := presentation_eq_ok_iff.mp habout'
  constructor
  · exact fun hkey => detail_eq_of_getD (h _ (by decide) hkey) h1 h1'
  · exact fun hkey => detail_eq_of_getD (h _ (by decide) hkey) h2 h2'
  · exact fun hkey => detail_eq_of_getD (h _ (by decide) hkey) h3 h3'
  · exact fun hkey => detail_eq_of_getD (h _ (by decide) hkey) h4 h4'
  · exact fun hkey => detail_eq_of_getD (h _ (by decide) hkey) h5 h5'
  · exact fun hkey => detail_eq_of_getD (h _ (by decide) hkey) h6 h6'
  · exact fun hkey => detail_eq_of_getD (h _ (by decide) hkey) h7 h7'
  · exact fun hkey => detail_eq_of_getD (h _ (by decide) hkey) h8 h8'

theorem AgreeUnder.bounds {limits limits' : Bounds} (h : AgreeUnder boundsKeys keys es fs)
    (hlimits : bounds es = .ok limits) (hlimits' : bounds fs = .ok limits') :
    limits.AgreeApart keys limits' := by
  obtain ⟨h1, h2, h3, h4, h5⟩ := bounds_eq_ok_iff.mp hlimits
  obtain ⟨h1', h2', h3', h4', h5'⟩ := bounds_eq_ok_iff.mp hlimits'
  constructor
  · exact fun hkey => detail_eq_of_getD (h _ (by decide) hkey) h1 h1'
  · exact fun hkey => detail_eq_of_getD (h _ (by decide) hkey) h2 h2'
  · exact fun hkey => detail_eq_of_getD (h _ (by decide) hkey) h3 h3'
  · exact fun hkey => detail_eq_of_getD (h _ (by decide) hkey) h4 h4'
  · exact fun hkey => detail_eq_of_getD (h _ (by decide) hkey) h5 h5'

theorem AgreeUnder.left {stated more : List String} (h : AgreeUnder (stated ++ more) keys es fs) :
    AgreeUnder stated keys es fs :=
  fun key hkey => h key (List.mem_append_left _ hkey)

theorem AgreeUnder.right {stated more : List String} (h : AgreeUnder (stated ++ more) keys es fs) :
    AgreeUnder more keys es fs :=
  fun key hkey => h key (List.mem_append_right _ hkey)

/-- The type of a node is the one that its document states. -/
theorem Reads.getD_type {node : Node} (h : Reads (.object es) node) :
    Value.getD es "type" = .string node.type := by
  cases h <;> assumption

theorem Reads.type_eq {node : Node} {type : String} (h : Reads (.object es) node)
    (htype : Value.getD es "type" = .string type) : node.type = type :=
  Value.string.inj (h.getD_type.symm.trans htype)

theorem Reads.exists_primitive {node : Node} {kind : Primitive} (h : Reads (.object es) node)
    (htype : Value.getD es "type" = .string kind.name) :
    ∃ about limits, node = .primitive about kind limits ∧ presentation es = .ok about ∧
      bounds es = .ok limits := by
  have heq := h.type_eq htype
  cases h with
  | @primitive _ about kind' limits _ habout hlimits =>
    have hkind : kind' = kind := by
      have hname := congrArg Primitive.ofName? heq
      simpa [Node.type, Primitive.ofName?_name] using hname
    subst hkind
    exact ⟨about, limits, rfl, habout, hlimits⟩
  | array => exact absurd heq.symm (Primitive.name_ne rfl kind)
  | object => exact absurd heq.symm (Primitive.name_ne rfl kind)
  | unknown _ _ hname => exact absurd heq.symm (Primitive.name_ne hname kind)

theorem Reads.exists_array {node : Node} {v : Value} (h : Reads (.object es) node)
    (htype : Value.getD es "type" = .string arrayType)
    (hlookup : Value.lookup (.name "items") es = some v) :
    ∃ about items, node = .array about items ∧ presentation es = .ok about ∧ Reads v items := by
  have heq := h.type_eq htype
  cases h with
  | @primitive _ _ kind _ => exact absurd heq (Primitive.name_ne rfl kind)
  | @array _ about w items _ habout hlookup' hitems =>
    obtain rfl : v = w := Option.some.inj (hlookup.symm.trans hlookup')
    exact ⟨about, items, rfl, habout, hitems⟩
  | object =>
    have hne : objectType ≠ arrayType := by decide
    exact absurd heq hne
  | unknown _ _ _ harray => exact absurd heq harray

theorem Reads.exists_object {node : Node} (h : Reads (.object es) node)
    (htype : Value.getD es "type" = .string objectType) :
    ∃ about children kids required more, node = .object about kids required more ∧
      presentation es = .ok about ∧ ReadsAll (members es) children ∧
      childNames children = .ok kids ∧ requiredNames (statedNames es) = .ok required ∧
      additional es = .ok more := by
  have heq := h.type_eq htype
  cases h with
  | @primitive _ _ kind _ => exact absurd heq (Primitive.name_ne rfl kind)
  | array =>
    have hne : arrayType ≠ objectType := by decide
    exact absurd heq hne
  | object _ habout hchildren hkids hrequired hmore =>
    exact ⟨_, _, _, _, _, rfl, habout, hchildren, hkids, hrequired, hmore⟩
  | unknown _ _ _ _ hobject => exact absurd heq hobject

theorem Reads.exists_unknown {node : Node} {type : String} (h : Reads (.object es) node)
    (htype : Value.getD es "type" = .string type) (hname : Primitive.ofName? type = none)
    (harray : type ≠ arrayType) (hobject : type ≠ objectType) :
    ∃ about raw, node = .unknown about type raw ∧ presentation es = .ok about := by
  have heq := h.type_eq htype
  cases h with
  | @primitive _ _ kind _ => exact absurd heq (Primitive.name_ne hname kind)
  | array => exact absurd heq.symm harray
  | object => exact absurd heq.symm hobject
  | unknown _ _ _ _ _ habout =>
    obtain rfl : _ = type := heq
    exact ⟨_, _, rfl, habout⟩

end Fields

mutual

/-- Nodes that stand for documents which agree apart from some keys do so, too. -/
theorem NodesAgreeApart.reads : {d d' : Value} → NodesAgreeApart keys d d' → {node node' : Node} →
    Reads d node → Reads d' node' → node.AgreeApart keys node'
  | _, _, .primitive htype htype' hstated, _, _, h, h' => by
    obtain ⟨about, limits, rfl, habout, hlimits⟩ := h.exists_primitive htype
    obtain ⟨about', limits', rfl, habout', hlimits'⟩ := h'.exists_primitive htype'
    exact .primitive (hstated.left.presentation habout habout')
      (hstated.right.bounds hlimits hlimits')
  | _, _, .array htype htype' hstated hlookup hlookup' hitems, _, _, h, h' => by
    obtain ⟨about, items, rfl, habout, hread⟩ := h.exists_array htype hlookup
    obtain ⟨about', items', rfl, habout', hread'⟩ := h'.exists_array htype' hlookup'
    exact .array (hstated.presentation habout habout') (hitems.reads hread hread')
  | _, _, .object htype htype' hstated hrequired hchildren, _, _, h, h' => by
    obtain ⟨about, children, kids, required, more, rfl, habout, hread, hkids, hnames, hmore⟩ :=
      h.exists_object htype
    obtain ⟨about', children', kids', required', more', rfl, habout', hread', hkids', hnames',
      hmore'⟩ := h'.exists_object htype'
    rw [hrequired] at hnames
    obtain rfl : required = required' := Checked.ok.inj (hnames.symm.trans hnames')
    rw [childNames, Checked.under_eq_ok_iff] at hkids hkids'
    refine .object (hstated.left.presentation habout habout')
      (hchildren.reads hread hread' hkids hkids') fun hkey => ?_
    exact detail_eq_of_getD (hstated.right _ (by decide) hkey) hmore hmore'
  | _, _, .unknown htype htype' hname harray hobject hstated, _, _, h, h' => by
    obtain ⟨about, raw, rfl, habout⟩ := h.exists_unknown htype hname harray hobject
    obtain ⟨about', raw', rfl, habout'⟩ := h'.exists_unknown htype' hname harray hobject
    exact .unknown (hstated.presentation habout habout')

theorem ChildrenAgreeApart.reads : {es fs : List (Key × Value)} → ChildrenAgreeApart keys es fs →
    {children children' : List (Key × Node)} → {kids kids' : Properties} →
      ReadsAll es children → ReadsAll fs children' → namedEntries children = .ok kids →
        namedEntries children' = .ok kids' → KidsAgreeApart keys kids kids'
  | _, _, .nil, _, _, _, _, h, h', hkids, hkids' => by
    cases h
    cases h'
    cases hkids
    cases hkids'
    exact .nil
  | _, _, .cons hfirst hrest, _, _, _, _, h, h', hkids, hkids' => by
    cases h with
    | cons hread hreadRest =>
      cases h' with
      | cons hread' hreadRest' =>
        simp only [namedEntries, Checked.seq_eq_ok_iff, Checked.map_eq_ok_iff] at hkids hkids'
        obtain ⟨_, rest, ⟨name, hname, rfl⟩, hkids, rfl⟩ := hkids
        obtain ⟨_, rest', ⟨name', hname', rfl⟩, hkids', rfl⟩ := hkids'
        obtain rfl : name = name' := Checked.ok.inj (hname.symm.trans hname')
        exact .cons (hfirst.reads hread hread')
          (hrest.reads hreadRest hreadRest' hkids hkids')

end

/-- Trees that are read from documents which agree apart from some keys do so, too. -/
theorem Tree.agreeApart_of_ofValue {d d' : Value} {t t' : Tree} (h : NodesAgreeApart keys d d')
    (ht : Tree.ofValue d = .ok t) (ht' : Tree.ofValue d' = .ok t') :
    t.root.AgreeApart keys t'.root :=
  h.reads (Tree.reads_of_ofValue ht) (Tree.reads_of_ofValue ht')

end ExtractionSchema.Wire
