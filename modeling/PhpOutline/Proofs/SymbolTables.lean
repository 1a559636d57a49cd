import PhpOutline.Proofs.Placement
import PhpOutline.Proofs.Progress
import PhpOutline.Proofs.Scoping

/-!
# The symbol tables of a file

A file as a list of items at its top level, each written in tokens: namespace and `use` statements,
declarations, and single tokens that start no statement. The pass over the tokens takes the items
one by one, so the tables of the file list what the items declare: each declaration at its place,
under its name, the later of two with one name in the place of the earlier.

Results:
* `Table.Records.put`: what a table records after an entry.
* `collect_item`: the pass takes one item.
* `Records.enter`: what the symbols record after one more item.
* `collect_records`: what the symbols of a file record.
-/

namespace PhpOutline

/-! ## Tables -/

/-- A table records some entries: its names are those of the entries in the order of their first
    occurrence, and each name has the value of its last entry. -/
structure Table.Records {α : Type} (t : Table α) (entries : List (String × α)) : Prop where
  keys_eq : t.keys = (entries.map Prod.fst).eraseDups
  lookup_eq : ∀ name, t.lookup name = entries.reverse.lookup name

theorem Table.records_nil {α : Type} : Table.Records ([] : Table α) [] := ⟨rfl, fun _ => rfl⟩

/-- A new last entry is a new first occurrence unless there is an earlier one. -/
theorem eraseDups_concat (names : List String) (name : String) :
    (names ++ [name]).eraseDups =
      if name ∈ names then names.eraseDups else names.eraseDups ++ [name] := by
  rw [List.eraseDups_append]
  by_cases h : name ∈ names
  · rw [if_pos h]
    simp [List.removeAll, h]
  · rw [if_neg h]
    simp [List.removeAll, h, List.eraseDups_cons]

theorem Table.Records.put {α : Type} {t : Table α} {entries : List (String × α)}
    (h : t.Records entries) (name : String) (value : α) :
    (Table.put name value t).Records (entries ++ [(name, value)]) := by
  refine ⟨?_, fun other => ?_⟩
  · rw [Table.keys_put, h.keys_eq, List.map_append, List.map_singleton, eraseDups_concat]
    simp only [List.mem_eraseDups]
  · rw [List.reverse_append, List.reverse_singleton, List.singleton_append]
    by_cases hname : other = name
    · rw [hname, Table.lookup_put_self, List.lookup_cons_self]
    · rw [Table.lookup_put_of_ne hname, h.lookup_eq, List.lookup_cons,
        beq_eq_false_iff_ne.2 hname]

/-- The table with some entries entered one after the other. -/
def Table.putAll {α : Type} (t : Table α) (entries : List (String × α)) : Table α :=
  entries.foldl (fun t (name, value) => Table.put name value t) t

theorem Table.Records.putAll {α : Type} {t : Table α} {entries : List (String × α)}
    (h : t.Records entries) (later : List (String × α)) :
    (Table.putAll t later).Records (entries ++ later) := by
  induction later generalizing t entries with
  | nil => rwa [List.append_nil]
  | cons entry later ih =>
    rw [List.append_cons]
    exact ih (h.put entry.1 entry.2)

/-! ## Items -/

namespace Symbols

/-- An item at the top level of a file. -/
inductive Item where
  | scope (parts : List String)
  | use (clauses : List UseClause)
  | interface (d : InterfaceDecl)
  | classDef (d : ClassDecl)
  | function (d : FunctionDecl)
  | constant (d : ConstantDecl)
  | inclusion (d : IncludeDecl)
  | inert
  deriving DecidableEq, Repr

namespace Item

open Reading

/-- Tokens that write an item. A declaration is written by tokens that its reader, at work on them
    alone, takes to the last one; the semicolon of a constant or an included file stands at
    depth zero. -/
inductive Renders : Item → List Token → Prop
  | scope {parts : List String} {keyword blank stop : Token} {path gap : List Token} :
      keyword.isKeyword .namespaceKw = true → blank.IsBlank → RendersPath parts path →
      gap.length ≤ 1 → (∀ t ∈ gap, t.IsBlank) → stop.isPunct ";" = true →
      Renders (.scope parts) (keyword :: blank :: (path ++ (gap ++ [stop])))
  | use {clauses : List UseClause} {keyword : Token} {ts : List Token} :
      keyword.isKeyword .useKw = true → RendersUse clauses ts →
      Renders (.use clauses) (keyword :: ts)
  | interface {alone : String} {d : InterfaceDecl} {keyword : Token} {body : List Token} :
      keyword.isKeyword .interfaceKw = true →
      (readInterface alone (.ofList (keyword :: body))).result = .ok (d, []) →
      Renders (.interface d) (keyword :: body)
  | classDef {alone : String} {d : ClassDecl} {keyword : Token} {body : List Token} :
      keyword.isKeyword .classKw = true →
      (readClass alone (.ofList (keyword :: body))).result = .ok (some d, []) →
      Renders (.classDef d) (keyword :: body)
  | function {alone : String} {d : FunctionDecl} {keyword : Token} {body : List Token} :
      keyword.isKeyword .functionKw = true →
      (readFunction alone (.ofList (keyword :: body))).result = .ok (some d, []) →
      Renders (.function d) (keyword :: body)
  | constant {alone : String} {d : ConstantDecl} {keyword stop : Token} {body : List Token} :
      keyword.isKeyword .constKw = true → stop.isPunct ";" = true → depth body = 0 →
      (readConstant alone (.ofList (keyword :: (body ++ [stop])))).result = .ok (d, []) →
      Renders (.constant d) (keyword :: (body ++ [stop]))
  | inclusion {alone : String} {d : IncludeDecl} {keyword stop : Token} {body : List Token} :
      includeWords.any keyword.isKeyword = true → stop.isPunct ";" = true → depth body = 0 →
      (readInclude alone (.ofList (keyword :: (body ++ [stop])))).result = .ok (d, []) →
      Renders (.inclusion d) (keyword :: (body ++ [stop]))
  | inert {t : Token} : statement? t = none → Renders .inert [t]

/-- The namespace that an item sets. -/
def scope? : Item → Option String
  | .scope parts => some ("\\".intercalate parts)
  | _ => none

/-- The aliases that an item sets, with the names they stand for. -/
def aliases : Item → List (String × String)
  | .use clauses => clauses.map fun u => (u.aliasName, u.target)
  | _ => []

/-- The interface that an item declares at a place. -/
def interfaces (place : Place) : Item → List (String × InterfaceDecl)
  | .interface d => [(d.name, d.placed place)]
  | _ => []

/-- The class that an item declares at a place. -/
def classes (place : Place) : Item → List (String × ClassDecl)
  | .classDef d => [(d.name, d.placed place)]
  | _ => []

/-- The function that an item declares at a place. -/
def functions (place : Place) : Item → List (String × FunctionDecl)
  | .function d => [(d.name, d.placed place)]
  | _ => []

/-- The constant that an item declares at a place. -/
def constants (place : Place) : Item → List (String × ConstantDecl)
  | .constant d => [(d.name, d.placed place)]
  | _ => []

/-- The file that an item includes at a place. -/
def includes (place : Place) : Item → List IncludeDecl
  | .inclusion d => [d.placed place]
  | _ => []

/-- The symbols after an item at a place. -/
def enter (place : Place) (s : Symbols) (item : Item) : Symbols where
  scope := item.scope?.getD s.scope
  aliases := Table.putAll s.aliases item.aliases
  interfaces := Table.putAll s.interfaces (item.interfaces place)
  classes := Table.putAll s.classes (item.classes place)
  functions := Table.putAll s.functions (item.functions place)
  constants := Table.putAll s.constants (item.constants place)
  includes := s.includes ++ item.includes place

section Enter

variable (place : Place) (s : Symbols)

theorem enter_scope (parts : List String) :
    enter place s (.scope parts) = { s with scope := "\\".intercalate parts } := by
  simp [enter, scope?, aliases, interfaces, classes, functions, constants, includes, Table.putAll]

theorem enter_use (clauses : List UseClause) :
    enter place s (.use clauses) =
      { s with
        aliases := Table.putAll s.aliases (clauses.map fun u => (u.aliasName, u.target)) } := by
  simp [enter, scope?, aliases, interfaces, classes, functions, constants, includes, Table.putAll]

theorem enter_interface (d : InterfaceDecl) :
    enter place s (.interface d) =
      { s with interfaces := s.interfaces.put d.name (d.placed place) } := by
  simp [enter, scope?, aliases, interfaces, classes, functions, constants, includes, Table.putAll]

theorem enter_classDef (d : ClassDecl) :
    enter place s (.classDef d) = { s with classes := s.classes.put d.name (d.placed place) } := by
  simp [enter, scope?, aliases, interfaces, classes, functions, constants, includes, Table.putAll]

theorem enter_function (d : FunctionDecl) :
    enter place s (.function d) =
      { s with functions := s.functions.put d.name (d.placed place) } := by
  simp [enter, scope?, aliases, interfaces, classes, functions, constants, includes, Table.putAll]

theorem enter_constant (d : ConstantDecl) :
    enter place s (.constant d) =
      { s with constants := s.constants.put d.name (d.placed place) } := by
  simp [enter, scope?, aliases, interfaces, classes, functions, constants, includes, Table.putAll]

theorem enter_inclusion (d : IncludeDecl) :
    enter place s (.inclusion d) = { s with includes := s.includes ++ [d.placed place] } := by
  simp [enter, scope?, aliases, interfaces, classes, functions, constants, includes, Table.putAll]

theorem enter_inert : enter place s .inert = s := by
  simp [enter, scope?, aliases, interfaces, classes, functions, constants, includes, Table.putAll]

end Enter

end Item

/-! ## The pass over items -/

theorem moveTo_append (passed chunk more : List Token) :
    (⟨passed, chunk ++ more⟩ : Cursor).moveTo more = ⟨chunk.reverse ++ passed, more⟩ := by
  rw [Cursor.moveTo, ← Cursor.skip_append]
  simp

theorem collect_of_handled {s s' : Symbols} {c after : Cursor} {t : Token} {st : Statement}
    (hc : c.current = some t) (ht : st.words.any t.isKeyword = true)
    (h : (s.handle c st).result = .ok (s', after)) : (s.collect c).2 = (s'.collect after).2 := by
  rw [collect_of_statement hc (statement?_eq_some_iff.2 ht), h]

theorem handled_of_read {α : Type} {c : Cursor} {enter : α → List Event × Symbols}
    {n : Noted (α × List Token)} {a : α} {rest : List Token} (h : n.result = .ok (a, rest)) :
    (handled c enter n).result = .ok ((enter a).2, c.moveTo rest) := by
  unfold handled
  rw [h]

theorem any_isKeyword {t : Token} {word : Keyword} (h : t.isKeyword word = true) :
    [word].any t.isKeyword = true := by
  rw [List.any_cons, h, Bool.true_or]

/-- The pass takes one item. -/
theorem collect_item {item : Item} {chunk : List Token} (h : item.Renders chunk) (s : Symbols)
    (passed more : List Token) :
    (s.collect ⟨passed, chunk ++ more⟩).2 =
      ((item.enter (.after s.scope passed) s).collect ⟨chunk.reverse ++ passed, more⟩).2 := by
  -- Each statement leaves the cursor right after the item, by the lemma of its reader.
  cases h with
  | inert ht =>
    rw [List.singleton_append, collect_of_inert rfl ht, Item.enter_inert]
    rfl
  | @scope parts keyword blank stop path gap hkeyword hspace hpath hgap hblank hstop =>
    have ht : Statement.scope.words.any keyword.isKeyword = true :=
      any_isKeyword hkeyword
    have hchunk : keyword :: blank :: (path ++ (gap ++ [stop])) ++ more =
        keyword :: blank :: (path ++ (gap ++ stop :: more)) := by simp
    rw [hchunk]
    refine collect_of_handled rfl ht ?_
    rw [handle, readNamespace_of_renders hpath hspace hgap hblank hstop, Item.enter_scope]
    simp
  | @use clauses keyword ts hkeyword hts =>
    have ht : Statement.use.words.any keyword.isKeyword = true :=
      any_isKeyword hkeyword
    refine collect_of_handled rfl ht ?_
    rw [handle]
    simp only [List.cons_append, List.tail_cons, readUse_of_renders hts more]
    rw [← List.cons_append, moveTo_append, Item.enter_use]
    rfl
  | @interface alone d keyword body hkeyword hread =>
    have ht : Statement.interface.words.any keyword.isKeyword = true :=
      any_isKeyword hkeyword
    refine collect_of_handled rfl ht ?_
    rw [handle, List.cons_append, handled_of_read
      (Reading.readInterface_placed ht hread s.scope passed more), ← List.cons_append,
      moveTo_append, Item.enter_interface]
    rfl
  | @classDef alone d keyword body hkeyword hread =>
    have ht : Statement.classDef.words.any keyword.isKeyword = true :=
      any_isKeyword hkeyword
    refine collect_of_handled rfl ht ?_
    rw [handle, List.cons_append, handled_of_read
      (Reading.readClass_placed ht hread s.scope passed more), ← List.cons_append, moveTo_append,
      Item.enter_classDef]
    rfl
  | @function alone d keyword body hkeyword hread =>
    have ht : Statement.function.words.any keyword.isKeyword = true :=
      any_isKeyword hkeyword
    refine collect_of_handled rfl ht ?_
    rw [handle, List.cons_append, handled_of_read
      (Reading.readFunction_placed ht hread s.scope passed more), ← List.cons_append, moveTo_append,
      Item.enter_function]
    rfl
  | @constant alone d keyword stop body hkeyword hstop hdepth hread =>
    have ht : Statement.constant.words.any keyword.isKeyword = true :=
      any_isKeyword hkeyword
    have hchunk : keyword :: (body ++ [stop]) ++ more = keyword :: (body ++ stop :: more) := by simp
    refine collect_of_handled rfl ht ?_
    rw [handle, hchunk, handled_of_read
      (Reading.readConstant_placed ht hstop hdepth hread s.scope passed more), ← hchunk,
      moveTo_append, Item.enter_constant]
    rfl
  | @inclusion alone d keyword stop body hkeyword hstop hdepth hread =>
    have hchunk : keyword :: (body ++ [stop]) ++ more = keyword :: (body ++ stop :: more) := by simp
    refine collect_of_handled rfl (show Statement.inclusion.words.any _ = true from hkeyword) ?_
    rw [handle, hchunk, handled_of_read
      (Reading.readInclude_placed hkeyword hstop hdepth hread s.scope passed more), ← hchunk,
      moveTo_append, Item.enter_inclusion]

/-! ## What a file declares -/

/-- The namespace in force after some items: that of the last namespace statement among them. -/
def scopeAfter (items : List (Item × List Token)) : String :=
  (items.filterMap (·.1.scope?)).getLast?.getD defaultScope

theorem scopeAfter_concat (items : List (Item × List Token)) (entry : Item × List Token) :
    scopeAfter (items ++ [entry]) = entry.1.scope?.getD (scopeAfter items) := by
  unfold scopeAfter
  cases hscope : entry.1.scope? <;> simp [hscope]

/-- The place of an item that follows some others. -/
def placeAfter (items : List (Item × List Token)) : Place :=
  .after (scopeAfter items) (items.flatMap (·.2)).reverse

/-- What the items after `before` declare, in order, where `pick` says what one item declares at a
    place. -/
def declaredAfter {β : Type} (pick : Place → Item → List β) (before : List (Item × List Token)) :
    List (Item × List Token) → List β
  | [] => []
  | entry :: later =>
    pick (placeAfter before) entry.1 ++ declaredAfter pick (before ++ [entry]) later

/-- What the items of a file declare, in order. -/
def declared {β : Type} (pick : Place → Item → List β) (items : List (Item × List Token)) :
    List β :=
  declaredAfter pick [] items

theorem declared_concat {β : Type} (pick : Place → Item → List β) (items : List (Item × List Token))
    (entry : Item × List Token) :
    declared pick (items ++ [entry]) =
      declared pick items ++ pick (placeAfter items) entry.1 := by
  have hafter : ∀ before, declaredAfter pick before (items ++ [entry]) =
      declaredAfter pick before items ++ pick (placeAfter (before ++ items)) entry.1 := by
    induction items with
    | nil => intro before; simp [declaredAfter]
    | cons first items ih => intro before; simp [declaredAfter, ih]
  exact hafter []

/-- Symbols that record the items of a file: the namespace in force at the end, the aliases, and the
    declarations of each kind at their places. -/
structure Records (s : Symbols) (items : List (Item × List Token)) : Prop where
  scope_eq : s.scope = scopeAfter items
  aliases : s.aliases.Records (declared (fun _ => Item.aliases) items)
  interfaces : s.interfaces.Records (declared Item.interfaces items)
  classes : s.classes.Records (declared Item.classes items)
  functions : s.functions.Records (declared Item.functions items)
  constants : s.constants.Records (declared Item.constants items)
  includes_eq : s.includes = declared Item.includes items

theorem records_nil : Records {} [] :=
  ⟨rfl, Table.records_nil, Table.records_nil, Table.records_nil, Table.records_nil,
    Table.records_nil, rfl⟩

/-- One more item is recorded at its place. -/
theorem Records.enter {s : Symbols} {items : List (Item × List Token)} (h : s.Records items)
    (entry : Item × List Token) :
    (entry.1.enter (placeAfter items) s).Records (items ++ [entry]) := by
  refine ⟨?_, ?_, ?_, ?_, ?_, ?_, ?_⟩
  · rw [scopeAfter_concat, ← h.scope_eq]
    rfl
  · rw [declared_concat]
    exact h.aliases.putAll _
  · rw [declared_concat]
    exact h.interfaces.putAll _
  · rw [declared_concat]
    exact h.classes.putAll _
  · rw [declared_concat]
    exact h.functions.putAll _
  · rw [declared_concat]
    exact h.constants.putAll _
  · rw [declared_concat, ← h.includes_eq]
    rfl

/-- The pass over items that follow others. -/
theorem exists_records_of_renders {before items : List (Item × List Token)} {s : Symbols}
    (hs : s.Records before) (h : ∀ entry ∈ items, entry.1.Renders entry.2) :
    ∃ s', (s.collect ⟨(before.flatMap (·.2)).reverse, items.flatMap (·.2)⟩).2 = .ok s' ∧
      s'.Records (before ++ items) := by
  induction items generalizing before s with
  | nil =>
    refine ⟨s, ?_, by rwa [List.append_nil]⟩
    rw [List.flatMap_nil, collect_of_end rfl]
  | cons entry items ih =>
    have hentry := h entry List.mem_cons_self
    obtain ⟨s', hcollect, hrecords⟩ :=
      ih (hs.enter entry) fun e he => h e (List.mem_cons_of_mem entry he)
    refine ⟨s', ?_, by rwa [List.append_cons]⟩
    rw [List.flatMap_cons, collect_item hentry, hs.scope_eq, ← hcollect]
    simp [placeAfter]

/-- The pass over the tokens of some items succeeds, and its symbols record the items. -/
theorem collect_records {items : List (Item × List Token)}
    (h : ∀ entry ∈ items, entry.1.Renders entry.2) :
    ∃ s, (collect {} (.ofList (items.flatMap (·.2)))).2 = .ok s ∧ s.Records items :=
  exists_records_of_renders records_nil h

/-- A namespace, a `use` statement with two clauses, an abstract class and a constant. -/
theorem collect_records_class :
    let blank : Token := ⟨some .whitespace, " ", 1⟩
    let sep : Token := ⟨some .separator, "\\", 1⟩
    let stop : Token := ⟨none, ";", 1⟩
    let name (s : String) : Token := ⟨some .name, s, 1⟩
    let word (w : Keyword) (s : String) : Token := ⟨some (.keyword w), s, 1⟩
    let items : List (Item × List Token) :=
      [(.inert, [⟨some .openTag, "<?php ", 1⟩]),
        (.scope ["A", "B"], [word .namespaceKw "namespace", blank, name "A", sep, name "B", stop]),
        (.use [⟨false, ["C", "D"], some "E"⟩, ⟨true, ["F"], none⟩],
          [word .useKw "use", blank, name "C", sep, name "D", blank, word .asKw "as", blank,
            name "E", ⟨none, ",", 1⟩, blank, sep, name "F", stop]),
        (.inert, [word .abstractKw "abstract"]),
        (.classDef { name := "G", scope := "", line := 1 },
          [word .classKw "class", blank, name "G", ⟨none, openBrace, 1⟩, ⟨none, closeBrace, 1⟩]),
        (.constant { name := "H", scope := "", line := 1, value := "1" },
          [word .constKw "const", blank, name "H", ⟨none, "=", 1⟩, ⟨some .integer, "1", 1⟩, stop])]
    (∀ entry ∈ items, entry.1.Renders entry.2) ∧
      ∃ s, (collect {} (.ofList (items.flatMap (·.2)))).2 = .ok s ∧ s.Records items := by
  intro blank sep stop name word items
  have hblank : blank.IsBlank := by decide
  have hspaces : UseClause.IsSpaces blank := by decide
  have hitems : ∀ entry ∈ items, entry.1.Renders entry.2 := by
    simp only [items, List.forall_mem_cons, List.not_mem_nil, false_implies, implies_true, and_true]
    refine ⟨.inert rfl, ?_, ?_, .inert rfl, ?_, ?_⟩
    · have hpath : RendersPath ["A", "B"] [name "A", sep, name "B"] :=
        @RendersPath.cons (name "A") sep _ _ rfl rfl rfl (@RendersPath.last (name "B") rfl)
      exact @Item.Renders.scope _ _ blank stop _ [] rfl hblank hpath (by decide) (by simp) rfl
    · refine .use rfl (@RendersUse.cons _ _
        ([blank] ++ ([name "C", sep, name "D"] ++ [blank, word .asKw "as", blank, name "E"]))
        ([blank, sep, name "F"] ++ [stop]) _ ⟨by decide, by decide, by decide⟩ ?_ rfl
        (.last ⟨by decide, by decide, by decide⟩ ?_ rfl))
      · exact .aliased (by simpa using hblank) (by simp) ⟨by decide, rfl⟩ hspaces rfl hspaces rfl
          rfl
      · exact @UseClause.Renders.plain _ [blank] [sep, name "F"] [] (by simpa using hblank)
          (by simp) ⟨by decide, rfl⟩ rfl
    · exact @Item.Renders.classDef "" _ _ _ rfl (by decide +kernel)
    · exact @Item.Renders.constant "" _ _ stop
        [blank, name "H", ⟨none, "=", 1⟩, ⟨some .integer, "1", 1⟩] rfl rfl (by decide +kernel)
        (by decide +kernel)
  exact ⟨hitems, collect_records hitems⟩

end Symbols

end PhpOutline
