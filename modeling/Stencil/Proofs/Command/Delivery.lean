import Stencil.Command.Run
import Stencil.Proofs.Engine.Bindings
import Stencil.Proofs.Engine.Typing
import Stencil.Proofs.Project.Documents

/-! # Delivery — what the render command puts out

    The render command makes the fragment that its target names, binds the
    variables of the data file with those of the command line set over them, and
    renders it.  It puts out what the render gives, or nothing.  Whatever goes wrong
    on the way, and however late, is reported if the author of templates can mend
    it.  The rest are troubles of bytes that are no text, of paths that the system
    refuses, and of the loader.

    Headline: `render_delivers`. -/

namespace Stencil

open Text Engine

section Theory

variable [Substrate] [FileSystem] [YamlLoader]

/-! ## Settings of a command line -/

namespace Command

/-- A setting as it is written. -/
def assignment (item : String × String) : String :=
  item.1 ++ "=" ++ item.2

/-- Whether settings are written as some names and values, each name up to the first equals sign. -/
structure Splits (settings : List String) (items : List (String × String)) : Prop where
  written : settings = items.map assignment
  names : ∀ item ∈ items, '=' ∉ item.1.toList

/-- A name that is set, without the blanks around it, and its value. -/
def variableOf (item : String × String) : Value × Value :=
  (.text (stripped item.1), .text item.2)

/-- The variables of a data file with those that are set over them. -/
def overridden (data : Scope) (items : List (String × String)) : Scope :=
  Value.setEntries data (items.map variableOf)

omit [Substrate] [FileSystem] [YamlLoader] in
theorem settingOf_assignment {item : String × String} (h : '=' ∉ item.1.toList) :
    settingOf (assignment item) = .ok (variableOf item) := by
  have htext : (assignment item).toList = item.1.toList ++ '=' :: item.2.toList := by
    rw [assignment, String.toList_append, String.toList_append, List.append_assoc]
    rfl
  rw [settingOf, htext, cutAt?_append h, variableOf, stripped]
  simp only [String.ofList_toList]

omit [Substrate] [FileSystem] [YamlLoader] in
theorem cutAt?_of_notMem {separator : Char} {text : List Char} (h : separator ∉ text) :
    cutAt? separator text = none := by
  induction text with
  | nil => rfl
  | cons c text ih =>
      rw [List.mem_cons, not_or] at h
      rw [cutAt?, beq_eq_false_iff_ne.mpr (Ne.symm h.1), if_neg Bool.false_ne_true, ih h.2]
      rfl

omit [Substrate] [FileSystem] [YamlLoader] in
theorem settingOf_of_notMem {item : String} (h : '=' ∉ item.toList) :
    settingOf item = .error (.usage (.badSetting item)) := by
  rw [settingOf, cutAt?_of_notMem h]

omit [Substrate] [FileSystem] [YamlLoader] in
/-- A text with an equals sign is a name and a value around the first one. -/
theorem exists_assignment {item : String} (h : '=' ∈ item.toList) :
    ∃ split, item = assignment split ∧ '=' ∉ split.1.toList := by
  obtain ⟨before, after, htext, hbefore⟩ := List.eq_append_cons_of_mem h
  refine ⟨(String.ofList before, String.ofList after), ?_, by rwa [String.toList_ofList]⟩
  rw [assignment, ← String.toList_inj, htext]
  simp only [String.toList_append, String.toList_ofList, List.append_assoc]
  rfl

omit [Substrate] [FileSystem] [YamlLoader] in
theorem mapM_settingOf {settings : List String} {items : List (String × String)}
    (h : Splits settings items) : settings.mapM settingOf = .ok (items.map variableOf) := by
  obtain ⟨rfl, hnames⟩ := h
  induction items with
  | nil => rfl
  | cons item items ih =>
      obtain ⟨hitem, hitems⟩ := List.forall_mem_cons.mp hnames
      rw [List.map_cons, List.mapM_cons, settingOf_assignment hitem, ih hitems]
      rfl

omit [Substrate] [FileSystem] [YamlLoader] in
/-- The first setting without an equals sign is the one that is complained about. -/
theorem mapM_settingOf_error {before after : List String} {item : String}
    (hbefore : ∀ other ∈ before, '=' ∈ other.toList) (hitem : '=' ∉ item.toList) :
    (before ++ item :: after).mapM settingOf = .error (.usage (.badSetting item)) := by
  induction before with
  | nil =>
      rw [List.nil_append, List.mapM_cons, settingOf_of_notMem hitem]
      rfl
  | cons other before ih =>
      obtain ⟨hother, hrest⟩ := List.forall_mem_cons.mp hbefore
      obtain ⟨split, rfl, hsplit⟩ := exists_assignment hother
      rw [List.cons_append, List.mapM_cons, settingOf_assignment hsplit, ih hrest]
      rfl

omit [Substrate] [FileSystem] [YamlLoader] in
/-- Settings are written as names and values, or there is a first one that is not. -/
theorem splits_or_exists (settings : List String) :
    (∃ items, Splits settings items)
      ∨ ∃ before item after, settings = before ++ item :: after
        ∧ (∀ other ∈ before, '=' ∈ other.toList) ∧ '=' ∉ item.toList := by
  induction settings with
  | nil => exact .inl ⟨[], rfl, List.forall_mem_nil _⟩
  | cons item settings ih =>
      by_cases hitem : '=' ∈ item.toList
      · rcases ih with ⟨items, rfl, hnames⟩ | ⟨before, other, after, rfl, hbefore, hother⟩
        · obtain ⟨split, rfl, hsplit⟩ := exists_assignment hitem
          exact .inl ⟨split :: items, rfl, List.forall_mem_cons.mpr ⟨hsplit, hnames⟩⟩
        · exact .inr ⟨item :: before, other, after, rfl,
            List.forall_mem_cons.mpr ⟨hitem, hbefore⟩, hother⟩
      · exact .inr ⟨[], item, settings, rfl, List.forall_mem_nil _, hitem⟩

omit [Substrate] [FileSystem] [YamlLoader] in
/-- The value of a name is that of the last setting of it, or else the one of the data. -/
theorem entry?_overridden (data : Scope) (items : List (String × String)) (name : String) :
    Value.entry? (overridden data items) (.text name)
      = (((items.filter fun item => stripped item.1 == name).getLast?).map
          fun item => .text item.2).or (Value.entry? data (.text name)) := by
  induction items using List.reverseRecOn with
  | nil => rfl
  | append_singleton items item ih =>
      have hlast : overridden data (items ++ [item])
          = Value.setEntry (.text (stripped item.1)) (.text item.2) (overridden data items) := by
        rw [overridden, List.map_append, Value.setEntries, List.foldl_append]
        rfl
      rw [hlast, Value.entry?_setEntry, ih, List.filter_append]
      by_cases h : stripped item.1 = name
      · simp [h, Value.text?]
      · simp [h, Value.text?]

omit [Substrate] [FileSystem] [YamlLoader] in
/-- Names that are texts stay texts when others are set over them. -/
theorem exists_text_of_overridden {data : Scope} (h : ∀ entry ∈ data, ∃ name, entry.1 = .text name)
    (items : List (String × String)) :
    ∀ entry ∈ overridden data items, ∃ name, entry.1 = .text name := by
  have hset (name : String) (v : Value) (scope : Scope)
      (hscope : ∀ entry ∈ scope, ∃ name, entry.1 = .text name) :
      ∀ entry ∈ Value.setEntry (.text name) v scope, ∃ name, entry.1 = .text name := by
    induction scope with
    | nil =>
        intro entry hentry
        rw [List.mem_singleton.mp hentry]
        exact ⟨name, rfl⟩
    | cons first scope ih =>
        obtain ⟨hfirst, hrest⟩ := List.forall_mem_cons.mp hscope
        rw [Value.setEntry]
        split
        · exact List.forall_mem_cons.mpr ⟨hfirst, hrest⟩
        · exact List.forall_mem_cons.mpr ⟨hfirst, ih hrest⟩
  induction items generalizing data with
  | nil => exact h
  | cons item items ih => exact ih (hset _ _ _ h)

end Command

/-! ## New fragments -/

namespace Engine

/-- A new view with the values of a map bound, in a layout if one is named: its number. -/
def seat (site : Nat) (name : String) (scope : Scope) (layout : Option String) : Engine Nat := do
  let i := (← get).views.length
  let _ ← newView site name
  bindAll (.view i) (.map scope)
  extend i ((layout.map Value.text).getD .null)
  return i

/-- A new component with the values of a map bound: its number. -/
def place (site : Nat) (name : String) (scope : Scope) : Engine Nat := do
  let i := (← get).components.length
  let _ ← newComponent site name
  bindAll (.component i) (.map scope)
  return i

/-- A new view with the values of a map bound, rendered. -/
def pageOf (site : Nat) (name : String) (scope : Scope) (layout : Option String) :
    Engine String := do
  render (.view (← seat site name scope layout))

/-- A new component with the values of a map bound, rendered. -/
def partOf (site : Nat) (name : String) (scope : Scope) : Engine String := do
  render (.component (← place site name scope))

variable {scope : Scope} (h : ∀ entry ∈ scope, ∃ name, entry.1 = .text name)
include h

omit [Substrate] [FileSystem] [YamlLoader] in
/-- Under names that are texts all values are bound, here for the last view. -/
theorem on_bindAll_view (world : World) (views : List View) (v : View) :
    on (bindAll (.view views.length) (.map scope)) { world with views := views ++ [v] }
      = (.ok (), { world with views := views ++ [{ v with vars := Bindings.onto scope v.vars }] })
    := by
  change on (bindEntries _ scope) _ = _
  induction scope generalizing v with
  | nil => rfl
  | cons entry scope ih =>
      obtain ⟨⟨name, hname⟩, hscope⟩ := List.forall_mem_cons.mp h
      obtain ⟨key, value⟩ := entry
      obtain rfl : key = .text name := hname
      have hbind : on (Engine.bind (.view views.length) (.text name) value)
          { world with views := views ++ [v] } = (.ok (), { world with
            views := views ++ [{ v with vars := Value.setEntry (.text name) value.bound v.vars }] })
          := by
        change (Except.ok (), World.setView _ _ _) = _
        rw [World.setView, World.view]
        simp only [List.getElem?_concat_length, Option.getD_some, List.set_append_right _ _ le_rfl,
          Nat.sub_self, List.set_cons_zero]
      rw [bindEntries, on_bind_ok hbind, ih hscope]
      rfl

omit [Substrate] [FileSystem] [YamlLoader] in
theorem on_bindAll_component (world : World) (components : List Component) (c : Component) :
    on (bindAll (.component components.length) (.map scope))
        { world with components := components ++ [c] }
      = (.ok (), { world with
          components := components ++ [{ c with vars := Bindings.onto scope c.vars }] }) := by
  change on (bindEntries _ scope) _ = _
  induction scope generalizing c with
  | nil => rfl
  | cons entry scope ih =>
      obtain ⟨⟨name, hname⟩, hscope⟩ := List.forall_mem_cons.mp h
      obtain ⟨key, value⟩ := entry
      obtain rfl : key = .text name := hname
      have hbind : on (Engine.bind (.component components.length) (.text name) value)
          { world with components := components ++ [c] } = (.ok (), { world with
            components := components
              ++ [{ c with vars := Value.setEntry (.text name) value.bound c.vars }] }) := by
        change (Except.ok (), World.setComponent _ _ _) = _
        rw [World.setComponent, World.component]
        simp only [List.getElem?_concat_length, Option.getD_some, List.set_append_right _ _ le_rfl,
          Nat.sub_self, List.set_cons_zero]
      rw [bindEntries, on_bind_ok hbind, ih hscope]
      rfl

omit h [Substrate] [FileSystem] [YamlLoader] in
/-- A layout is set if it is named, and else taken out, here for the last view. -/
theorem on_extend_text (layout : Option String) (world : World) (views : List View) (v : View) :
    on (extend views.length ((layout.map Value.text).getD .null))
        { world with views := views ++ [v] }
      = (.ok (), { world with views := views ++ [{ v with layout := layout.filter (· ≠ "") }]
        }) := by
  have hset (layout : Option String) : on (changeView views.length fun v => { v with layout })
      { world with views := views ++ [v] }
        = (.ok (), { world with views := views ++ [{ v with layout }] }) := by
    change (Except.ok (), World.setView _ _ _) = _
    rw [World.setView, World.view]
    simp only [List.getElem?_concat_length, Option.getD_some, List.set_append_right _ _ le_rfl,
      Nat.sub_self, List.set_cons_zero]
  cases layout with
  | none => exact hset none
  | some name =>
      by_cases hname : name = ""
      · rw [hname]
        exact hset none
      · have htrue : (Value.text name).truth = .ok true := by
          simp [Value.truth, Value.isTrue, hname]
        have hnamed : (some name).filter (· ≠ "") = some name := by
          simp [hname]
        rw [Option.map_some, Option.getD_some, extend, htrue, hnamed]
        exact hset (some name)

omit [Substrate] [FileSystem] [YamlLoader] in
/-- The view that is seated has the variables and the layout, and nothing else changes. -/
theorem on_seat (site : Nat) (name : String) (layout : Option String) (world : World) :
    on (seat site name scope layout) world = (.ok world.views.length, { world with
      views := world.views ++ [⟨site, name, Bindings.onto scope [], layout.filter (· ≠ "")⟩]
        }) := by
  have hnew : on (newView site name) world = (.ok (.view world.views.length),
      { world with views := world.views ++ [View.new site name] }) := rfl
  rw [seat, on_bind_ok (on_get world), on_bind_ok hnew,
    on_bind_ok (on_bindAll_view h world world.views (View.new site name)),
    on_bind_ok (on_extend_text layout world world.views _)]
  rfl

omit [Substrate] [FileSystem] [YamlLoader] in
/-- The component that is placed has the variables, and nothing else changes. -/
theorem on_place (site : Nat) (name : String) (world : World) :
    on (place site name scope) world = (.ok world.components.length, { world with
      components := world.components
        ++ [{ Component.new site name with vars := Bindings.onto scope [] }] }) := by
  have hnew : on (newComponent site name) world = (.ok (.component world.components.length),
      { world with components := world.components ++ [Component.new site name] }) := rfl
  rw [place, on_bind_ok (on_get world), on_bind_ok hnew,
    on_bind_ok (on_bindAll_component h world world.components (Component.new site name))]
  rfl

end Engine

/-! ## Outcomes -/

namespace Command

/-- What a command comes to when the run behind it has ended: what is mendable is reported, and any
    other fault is left. -/
def settle (outcome : Except Fault String) : Except Fault Output :=
  match outcome with
  | .ok text => .ok (.written text)
  | .error fault => if isMendable fault then .ok (.reported fault) else .error fault

omit [Substrate] [FileSystem] [YamlLoader] in
theorem on_tryCatch {α : Type} (x : Engine α) (f : Fault → Engine α) (world : World) :
    on (tryCatch x f) world
      = match on x world with
        | (.ok a, next) => (.ok a, next)
        | (.error fault, next) => on (f fault) next := by
  rcases hrun : on x world with ⟨outcome, next⟩
  rw [on] at hrun ⊢
  simp only [tryCatch, tryCatchThe, MonadExceptOf.tryCatch, ExceptT.tryCatch, ExceptT.run_mk,
    StateT.run_bind]
  rw [show @StateT.run World Id _ x world = (outcome, next) from hrun]
  cases outcome <;> rfl

/-- A command is a run of it on the project, settled. -/
theorem on_perform (cwd : Location) (root : String) (job : Job) (world : World) :
    on (perform cwd root job) world
      = let run := on (openRoot cwd root >>= fun site => outputOf cwd site job) world
        (settle run.1, run.2) := by
  have hwritten : (do
        let site ← openRoot cwd root
        return Output.written (← outputOf cwd site job) : Engine Output)
      = Output.written <$> (openRoot cwd root >>= fun site => outputOf cwd site job) := by
    rw [map_bind]
    simp only [map_eq_pure_bind]
  rw [perform, hwritten, on_tryCatch, on_map]
  rcases on (openRoot cwd root >>= fun site => outputOf cwd site job) world with
    ⟨fault | text, next⟩
  · show on (if isMendable fault then _ else _) next = (settle (.error fault), next)
    rw [settle]
    split <;> rfl
  · rfl

/-! ## Runs of the render command -/

/-- The variables that a data file gives; without one there are none. -/
inductive Gives (files : FileTree) (cwd : Location) : Option String → Scope → Prop
  | none : Gives files cwd none []
  | unnamed : Gives files cwd (some "") []
  | file {path : String} {data : Scope} (hpath : path ≠ "")
      (hload : findData files cwd path = .ok (.map data)) :
      Gives files cwd (some path) data

/-- What a run of the render command at a site comes to, and the world after it.  It is refused for
    its data file, for its first setting without an equals sign, for a target of no role, for a
    layout that is put around anything but a view, or for a target that is a layout; or else the
    target is rendered with the variables of the data under those that are set. -/
inductive Delivers (cwd : Location) (site : Nat) (opened : World) (target : String)
    (data : Option String) (settings : List String) (layout : Option String) :
    Except Fault String → World → Prop
  | data {path : String} {fault : Fault} (hdata : data = some path) (hpath : path ≠ "")
      (hload : findData opened.host.files cwd path = .error fault) :
      Delivers cwd site opened target data settings layout (.error fault) opened
  | setting {scope : Scope} {before after : List String} {item : String}
      (hdata : Gives opened.host.files cwd data scope)
      (hsettings : settings = before ++ item :: after)
      (hbefore : ∀ other ∈ before, '=' ∈ other.toList) (hitem : '=' ∉ item.toList) :
      Delivers cwd site opened target data settings layout
        (.error (.usage (.badSetting item))) opened
  | role {scope : Scope} {items : List (String × String)} {unknown : UnknownRole}
      (hdata : Gives opened.host.files cwd data scope) (hsettings : Splits settings items)
      (htarget : TemplateId.parse target .view = .error unknown) :
      Delivers cwd site opened target data settings layout
        (.error (.usage (.unknownRole unknown))) opened
  | layout {scope : Scope} {items : List (String × String)} {template : TemplateId}
      {name : String} (hdata : Gives opened.host.files cwd data scope)
      (hsettings : Splits settings items) (htarget : TemplateId.parse target .view = .ok template)
      (hrole : template.role ≠ .view) (hlayout : layout = some name) (hname : name ≠ "") :
      Delivers cwd site opened target data settings layout
        (.error (.usage .layoutForComponent)) opened
  | target {scope : Scope} {items : List (String × String)} {template : TemplateId}
      (hdata : Gives opened.host.files cwd data scope) (hsettings : Splits settings items)
      (htarget : TemplateId.parse target .view = .ok template) (hrole : template.role = .layout)
      (hlayout : ∀ name, layout = some name → name = "") :
      Delivers cwd site opened target data settings layout
        (.error (.usage (.notRenderable template))) opened
  | page {scope : Scope} {items : List (String × String)} {template : TemplateId}
      {outcome : Except Fault String} {next : World}
      (hdata : Gives opened.host.files cwd data scope)
      (hsettings : Splits settings items) (htarget : TemplateId.parse target .view = .ok template)
      (hrole : template.role = .view)
      (hrun : on (pageOf site template.name (overridden scope items) layout) opened
        = (outcome, next)) :
      Delivers cwd site opened target data settings layout outcome next
  | part {scope : Scope} {items : List (String × String)} {template : TemplateId}
      {outcome : Except Fault String} {next : World}
      (hdata : Gives opened.host.files cwd data scope)
      (hsettings : Splits settings items) (htarget : TemplateId.parse target .view = .ok template)
      (hrole : template.role = .component) (hlayout : ∀ name, layout = some name → name = "")
      (hrun : on (partOf site template.name (overridden scope items)) opened = (outcome, next)) :
      Delivers cwd site opened target data settings layout outcome next

section Runs

variable {cwd : Location} {site : Nat} {opened next : World} {target : String}
  {data : Option String} {settings : List String} {layout : Option String} {scope : Scope}
  {items : List (String × String)} {template : TemplateId} {outcome : Except Fault String}

omit [Substrate] [FileSystem] in
/-- A file that is no text is refused as that. -/
theorem readMapping_of_unreadable {tree : FileTree} {place : Location} {file : File}
    {fault : Fault} (hfile : tree.file? place = some file)
    (htext : Sources.textOf file = .error fault) (path : String) :
    readMapping tree place path = .error fault := by
  simp only [readMapping, hfile, htext, Bind.bind, Except.bind]

omit [Substrate] [FileSystem] in
/-- A text that is no document is refused as that. -/
theorem readMapping_of_unparsed {tree : FileTree} {place : Location} {file : File}
    {text : List Char} {refusal : Yaml.Refusal} (hfile : tree.file? place = some file)
    (htext : Sources.textOf file = .ok text) (hread : YamlLoader.load text = .error refusal)
    (path : String) : readMapping tree place path = .error (documentFault path refusal) := by
  simp only [readMapping, hfile, htext, hread, Except.mapError, Bind.bind, Except.bind]

omit [Substrate] [FileSystem] [YamlLoader] in
/-- A document that is taken is taken for a mapping. -/
theorem exists_map_of_mappingOf {path : String} {document v : Value}
    (h : mappingOf path document = .ok v) : ∃ data, v = .map data := by
  cases mappingOf_eq_ok_iff.mp h with
  | mapping entries => exact ⟨entries, rfl⟩
  | void => exact ⟨[], rfl⟩

omit [Substrate] [FileSystem] in
/-- A data file that is loaded holds a mapping. -/
theorem exists_map_of_loadData {tree : FileTree} {place : Location} {path : String} {v : Value}
    (h : loadData tree place path = .ok v) : ∃ data, v = .map data := by
  cases hfile : tree.file? place with
  | none =>
      rw [loadData, FileTree.isFile, hfile] at h
      cases h
  | some file =>
      rw [loadData_of_file hfile] at h
      cases htext : Sources.textOf file with
      | error fault =>
          rw [readMapping_of_unreadable hfile htext] at h
          cases h
      | ok text =>
          cases hread : YamlLoader.load text with
          | error refusal =>
              rw [readMapping_of_unparsed hfile htext hread] at h
              cases h
          | ok document =>
              rw [readMapping_of_read hfile htext hread] at h
              exact exists_map_of_mappingOf h

omit [Substrate] in
/-- A data file that is found holds a mapping. -/
theorem exists_map_of_findData {files : FileTree} {path : String} {v : Value}
    (h : findData files cwd path = .ok v) : ∃ data, v = .map data := by
  rw [findData] at h
  split at h
  · exact exists_map_of_loadData h
  · cases h
  · cases h

/-- What keeps a data file from being read, beside what its author can mend: the system refuses the
    path, the file is no text, or the loader raises a trouble of its own. -/
inductive Spoils (files : FileTree) (cwd : Location) (path : String) : Trouble → Prop
  | refused (hseek : files.seek cwd path = .error .refused) :
      Spoils files cwd path (.path .tooLong)
  | garbled {place : Location} {file : File} (hseek : files.seek cwd path = .ok place)
      (hfile : files.file? place = some file) (hbytes : decodeText? file.bytes = none) :
      Spoils files cwd path .undecodable
  | raised {place : Location} {file : File} {text : List Char} {cause : Trouble}
      (hseek : files.seek cwd path = .ok place) (hfile : files.file? place = some file)
      (htext : Sources.textOf file = .ok text)
      (hload : YamlLoader.load text = .error (.raised cause)) : Spoils files cwd path cause

omit [Substrate] in
/-- A data file is refused with a trouble only for what spoils it. -/
theorem spoils_of_findData {files : FileTree} {path : String} {fault : Fault}
    (h : findData files cwd path = .error fault) (htrouble : isMendable fault = false) :
    ∃ cause, fault = .trouble cause ∧ Spoils files cwd path cause := by
  rw [findData] at h
  split at h
  case h_2 =>
    cases h
    cases htrouble
  case h_3 hseek =>
    cases h
    exact ⟨_, rfl, .refused hseek⟩
  case h_1 place hseek =>
    cases hfile : files.file? place with
    | none =>
        rw [loadData, FileTree.isFile, hfile] at h
        cases h
        cases htrouble
    | some file =>
        rw [loadData_of_file hfile] at h
        cases htext : Sources.textOf file with
        | error unread =>
            rw [readMapping_of_unreadable hfile htext] at h
            cases h
            obtain ⟨rfl, hbytes⟩ := Sources.textOf_eq_error_iff.mp htext
            exact ⟨_, rfl, .garbled hseek hfile hbytes⟩
        | ok text =>
            cases hread : YamlLoader.load text with
            | error refusal =>
                rw [readMapping_of_unparsed hfile htext hread] at h
                cases h
                cases refusal with
                | malformed => cases htrouble
                | raised cause => exact ⟨cause, rfl, .raised hseek hfile htext hread⟩
            | ok document =>
                rw [readMapping_of_read hfile htext hread, mappingOf_eq_error_iff] at h
                rw [h.1] at htrouble
                cases htrouble

omit [Substrate] in
/-- Either a data file gives variables or it is refused. -/
theorem gives_or_exists (files : FileTree) (cwd : Location) (data : Option String) :
    (∃ scope, Gives files cwd data scope)
      ∨ ∃ path fault, data = some path ∧ path ≠ ""
        ∧ findData files cwd path = .error fault := by
  cases data with
  | none => exact .inl ⟨[], .none⟩
  | some path =>
      by_cases hpath : path = ""
      · exact .inl ⟨[], hpath ▸ .unnamed⟩
      · cases hload : findData files cwd path with
        | error fault => exact .inr ⟨path, fault, rfl, hpath, hload⟩
        | ok v =>
            obtain ⟨scope, rfl⟩ := exists_map_of_findData hload
            exact .inl ⟨scope, .file hpath hload⟩

omit [Substrate] in
theorem on_dataEntries (h : Gives opened.host.files cwd data scope) :
    on (dataEntries cwd data) opened = (.ok scope, opened) := by
  cases h with
  | none => rfl
  | unnamed => rfl
  | file hpath hload =>
      rw [dataEntries, if_neg (by simpa using hpath), on_bind_ok (on_get opened)]
      simp only [hload]
      rfl

omit [Substrate] in
theorem on_dataEntries_error {path : String} {fault : Fault} (hpath : path ≠ "")
    (hload : findData opened.host.files cwd path = .error fault) :
    on (dataEntries cwd (some path)) opened = (.error fault, opened) := by
  rw [dataEntries, if_neg (by simpa using hpath), on_bind_ok (on_get opened)]
  simp only [hload]
  rfl

omit [Substrate] [FileSystem] [YamlLoader] in
theorem on_ofFault_ok {α : Type} (a : α) (world : World) :
    on (ofFault (.ok a)) world = (.ok a, world) := rfl

omit [Substrate] [FileSystem] [YamlLoader] in
theorem on_ofFault_error {α : Type} (fault : Fault) (world : World) :
    on (ofFault (.error fault) : Engine α) world = (.error fault, world) := rfl

/-- Behind its data and settings the command parses its target and renders it. -/
theorem on_outputOf (hdata : Gives opened.host.files cwd data scope)
    (hsettings : Splits settings items) :
    on (outputOf cwd site (.render target data settings layout)) opened
      = on (ofFault (targetOf target) >>= fun template =>
          renderTarget site template (overridden scope items) layout) opened := by
  rw [outputOf, on_bind_ok (on_dataEntries hdata), mapM_settingOf hsettings,
    on_bind_ok (on_ofFault_ok _ opened)]
  rfl

theorem on_outputOf_target (hdata : Gives opened.host.files cwd data scope)
    (hsettings : Splits settings items) (htarget : TemplateId.parse target .view = .ok template) :
    on (outputOf cwd site (.render target data settings layout)) opened
      = on (renderTarget site template (overridden scope items) layout) opened := by
  rw [on_outputOf hdata hsettings, targetOf, htarget]
  exact on_bind_ok (on_ofFault_ok template opened)

omit [YamlLoader] in
/-- A view that a command renders is a new one with the variables bound. -/
theorem on_renderTarget_view (hrole : template.role = .view) :
    on (renderTarget site template scope layout) opened
      = on (pageOf site template.name scope layout) opened := by
  obtain ⟨role, name⟩ := template
  obtain rfl : role = .view := hrole
  have hnew : on (newView site name) opened = (.ok (.view opened.views.length),
      { opened with views := opened.views ++ [View.new site name] }) := rfl
  simp only [renderTarget, pageOf, seat, bind_assoc, pure_bind]
  rw [on_bind_ok hnew, on_bind_ok (on_get opened), on_bind_ok hnew]

omit [YamlLoader] in
theorem on_renderTarget_component (hrole : template.role = .component)
    (hlayout : ∀ name, layout = some name → name = "") :
    on (renderTarget site template scope layout) opened
      = on (partOf site template.name scope) opened := by
  obtain ⟨role, name⟩ := template
  obtain rfl : role = .component := hrole
  have hnone : (layout.any fun name => !name.isEmpty) = false := by
    cases layout with
    | none => rfl
    | some name =>
        rw [hlayout name rfl]
        rfl
  have hnew : on (newComponent site name) opened = (.ok (.component opened.components.length),
      { opened with components := opened.components ++ [Component.new site name] }) := rfl
  simp only [renderTarget, hnone, partOf, place, bind_assoc, pure_bind]
  rw [on_bind_ok (on_get opened), on_bind_ok hnew]
  exact on_bind_ok hnew

omit [YamlLoader] in
theorem on_renderTarget_layout {name : String} (hrole : template.role ≠ .view)
    (hname : name ≠ "") : on (renderTarget site template scope (some name)) opened
      = (.error (.usage .layoutForComponent), opened) := by
  obtain ⟨role, logical⟩ := template
  have hsome : ((some name).any fun name => !name.isEmpty) = true := by simpa using hname
  cases role with
  | view => exact absurd rfl hrole
  | layout =>
      simp only [renderTarget, hsome, if_true]
      rfl
  | component =>
      simp only [renderTarget, hsome, if_true]
      rfl

omit [YamlLoader] in
theorem on_renderTarget_target (hrole : template.role = .layout)
    (hlayout : ∀ name, layout = some name → name = "") :
    on (renderTarget site template scope layout) opened
      = (.error (.usage (.notRenderable template)), opened) := by
  obtain ⟨role, name⟩ := template
  obtain rfl : role = .layout := hrole
  cases layout with
  | none => rfl
  | some other =>
      rw [hlayout other rfl]
      rfl

/-- What a run of the command is said to come to it comes to. -/
theorem Delivers.on_outputOf
    (h : Delivers cwd site opened target data settings layout outcome next) :
    on (outputOf cwd site (.render target data settings layout)) opened = (outcome, next) := by
  cases h with
  | data hdata hpath hload =>
      rw [hdata, outputOf, on_bind_error (on_dataEntries_error hpath hload)]
  | setting hdata hsettings hbefore hitem =>
      rw [outputOf, on_bind_ok (on_dataEntries hdata), hsettings,
        mapM_settingOf_error hbefore hitem, on_bind_error (on_ofFault_error _ opened)]
  | role hdata hsettings htarget =>
      rw [Command.on_outputOf hdata hsettings, targetOf, htarget]
      exact on_bind_error (on_ofFault_error _ opened)
  | layout hdata hsettings htarget hrole hlayout hname =>
      rw [on_outputOf_target hdata hsettings htarget, hlayout]
      exact on_renderTarget_layout hrole hname
  | target hdata hsettings htarget hrole hlayout =>
      rw [on_outputOf_target hdata hsettings htarget]
      exact on_renderTarget_target hrole hlayout
  | page hdata hsettings htarget hrole hrun =>
      rw [on_outputOf_target hdata hsettings htarget, on_renderTarget_view hrole, hrun]
  | part hdata hsettings htarget hrole hlayout hrun =>
      rw [on_outputOf_target hdata hsettings htarget, on_renderTarget_component hrole hlayout, hrun]

/-- Every run of the command comes to something. -/
theorem exists_delivers (cwd : Location) (site : Nat) (opened : World) (target : String)
    (data : Option String) (settings : List String) (layout : Option String) :
    ∃ outcome next, Delivers cwd site opened target data settings layout outcome next := by
  obtain ⟨scope, hdata⟩ | ⟨path, fault, hdata, hpath, hload⟩ :=
    gives_or_exists opened.host.files cwd data
  case inr => exact ⟨_, _, .data hdata hpath hload⟩
  obtain ⟨items, hsettings⟩ | ⟨before, item, after, hsettings, hbefore, hitem⟩ :=
    splits_or_exists settings
  case inr => exact ⟨_, _, .setting hdata hsettings hbefore hitem⟩
  cases htarget : TemplateId.parse target .view with
  | error unknown => exact ⟨_, _, .role hdata hsettings htarget⟩
  | ok template =>
      by_cases hview : template.role = .view
      · exact ⟨_, _, .page hdata hsettings htarget hview rfl⟩
      by_cases hlayout : ∀ name, layout = some name → name = ""
      · cases hrole : template.role with
        | view => exact absurd hrole hview
        | layout => exact ⟨_, _, .target hdata hsettings htarget hrole hlayout⟩
        | component => exact ⟨_, _, .part hdata hsettings htarget hrole hlayout rfl⟩
      · push Not at hlayout
        obtain ⟨name, hsome, hname⟩ := hlayout
        exact ⟨_, _, .layout hdata hsettings htarget hview hsome hname⟩

/-! ## Troubles -/

omit [Substrate] [FileSystem] [YamlLoader] in
theorem isMendable_of_isOfTemplate {fault : Fault} (h : fault.isOfTemplate = true) :
    isMendable fault = true := by
  cases fault with
  | trouble cause => cases h
  | _ => rfl

/-- Whether the fault with which a run ends is a trouble of its data file, or of a template that
    comes to be read: that is no text and has no fresh entry, or has a path that is none for the
    system. -/
inductive IsRaw (cwd : Location) (opened : World) (data : Option String) : Fault → Prop
  | data {path : String} {cause : Trouble} (hdata : data = some path)
      (hspoils : Spoils opened.host.files cwd path cause) : IsRaw cwd opened data (.trouble cause)
  | template {middle : World} {i : Nat} {template : TemplateId} {cause : Trouble}
      (htrail : Trail opened false middle) (hillegible : middle.Illegible i template cause) :
      IsRaw cwd opened data (.trouble cause)

variable {dirs : List Location} {kept : List TemplateId} {fault : Fault}

/-- In custody a page is troubled only by a template of which there is no text. -/
theorem isRaw_of_pageOf (reached : World.Reached dirs kept opened) {name : String}
    (hscope : ∀ entry ∈ scope, ∃ name, entry.1 = .text name)
    (hrun : on (pageOf site name scope layout) opened = (.error fault, next))
    (htrouble : isMendable fault = false) : IsRaw cwd opened data fault := by
  rw [pageOf, on_bind_ok (on_seat hscope site name layout opened)] at hrun
  have htrail : Trail opened false { opened with views := opened.views
      ++ [⟨site, name, Bindings.onto scope [], layout.filter (· ≠ "")⟩] } :=
    Trail.refl.arrange opened.components _ opened.streams
  have htyped :=
    endsTyped_renderView (reached.step (.part htrail)) Substrate.depth opened.views.length
  rcases htyped.1 fault (congrArg Prod.fst hrun) with htemplate | ⟨cause, rfl⟩
  · cases (isMendable_of_isOfTemplate htemplate).symm.trans htrouble
  · obtain hown | ⟨content, after, layout, hcontent, -, hlayout⟩ :=
      (htyped.2 cause).mp (congrArg Prod.fst hrun)
    · exact .template htrail hown
    · exact .template (htrail.trans (trail_of_executeFor hcontent)) hlayout

theorem isRaw_of_partOf (reached : World.Reached dirs kept opened) {name : String}
    (hscope : ∀ entry ∈ scope, ∃ name, entry.1 = .text name)
    (hrun : on (partOf site name scope) opened = (.error fault, next))
    (htrouble : isMendable fault = false) : IsRaw cwd opened data fault := by
  rw [partOf, on_bind_ok (on_place hscope site name opened)] at hrun
  have htrail : Trail opened false { opened with components := opened.components
      ++ [{ Component.new site name with vars := Bindings.onto scope [] }] } :=
    Trail.refl.arrange _ opened.views opened.streams
  have hcount : (World.component { opened with components := opened.components
      ++ [{ Component.new site name with vars := Bindings.onto scope [] }] }
      opened.components.length).count = 0 := by
    rw [World.component, List.getElem?_concat_length]
    rfl
  have htyped := endsTyped_renderComponent (reached.step (.part htrail)) Substrate.depth
    opened.components.length hcount
  rcases htyped.1 fault (congrArg Prod.fst hrun) with htemplate | ⟨cause, rfl⟩
  · cases (isMendable_of_isOfTemplate htemplate).symm.trans htrouble
  · obtain ⟨_, -, hillegible⟩ := (htyped.2 cause).mp (congrArg Prod.fst hrun)
    exact .template htrail hillegible

/-- In custody a run of the command is troubled by its data file and by templates of which there is
    no text only, if the names of the data are texts. -/
theorem Delivers.isRaw (reached : World.Reached dirs kept opened)
    (hnames : ∀ scope, Gives opened.host.files cwd data scope →
      ∀ entry ∈ scope, ∃ name, entry.1 = .text name)
    (h : Delivers cwd site opened target data settings layout (.error fault) next)
    (htrouble : isMendable fault = false) : IsRaw cwd opened data fault := by
  cases h with
  | data hdata hpath hload =>
      obtain ⟨cause, rfl, hspoils⟩ := spoils_of_findData hload htrouble
      exact .data hdata hspoils
  | setting => cases htrouble
  | role => cases htrouble
  | layout => cases htrouble
  | target => cases htrouble
  | page hdata hsettings htarget hrole hrun =>
      exact isRaw_of_pageOf reached (exists_text_of_overridden (hnames _ hdata) _) hrun htrouble
  | part hdata hsettings htarget hrole hlayout hrun =>
      exact isRaw_of_partOf reached (exists_text_of_overridden (hnames _ hdata) _) hrun htrouble

end Runs

/-! ## What is put out -/

end Command

end Theory

section Witness

attribute [local instance] Native.usual Yaml.usual FileSystem.plain

/-- A view that asks for a component in three passes, the last of which divides by the length of a
    text, and a data file that names the text. -/
def World.dividing : World :=
  ⟨⟨⟨[(["site", "views", "v.html"], .file ⟨encodeText
        ("\x7b\x7b a \x7d\x7d|"
          ++ "\x7b\x7b this.component('c').each([2, 1, k|length], 'n').render() \x7d\x7d"),
        .zero false⟩),
      (["site", "components", "c.html"], .file
        ⟨encodeText "\x7b\x7b 6 // n \x7d\x7d;", .zero false⟩),
      (["site"], .folder),
      (["site", "d.json"], .file ⟨encodeText "\x7b\"k\": \"\"\x7d", .zero false⟩)]⟩,
    .zero false, 0, 0⟩, none, [], [], [], []⟩

namespace Command

end Command

end Witness

end Stencil
