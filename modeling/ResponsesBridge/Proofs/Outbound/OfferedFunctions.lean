import ResponsesBridge.Outbound.Tools
import ResponsesBridge.Proofs.Rows

/-!
# The functions that tools offer

Whether the service can be told of a tool is a matter of the tool alone: it must switch on no
capability, and declare functions, each with a name and with an object for its schema
(`Tool.Offerable`, `Declaration.Callable`). The functions of such tools are those of all declarations,
in order. If some tool is not like that, then the failure is that of the first one, at its position;
and if it is one of its declarations that is at fault, that of its first such declaration
(`functionTools_by_offer`).

The capabilities have names and an order of their own here (`Capability`). That the walk finds the first
one that a tool switches on is `capability?_eq_some_iff`.

Both walks count as they go. Each is a row of things beside their numbers (`declaredTools_eq`,
`functionToolsFrom_eq`), whose outcome is known from the rules for one thing (`Judged.gather`); the
numbers of a row that starts anywhere turn into positions by `firstOffends_zipIdx_iff`.
-/

set_option autoImplicit false

namespace ResponsesBridge

open Conversation (Declaration Tool)
open Wire (FunctionTool)

/-! ## Rules -/

/-- The JSON form of the parameters of a declaration: that of its schema, else its raw schema. -/
def Conversation.Declaration.schemaForm (declaration : Declaration) : Option Json.Value :=
  (declaration.parameters.map Conversation.Schema.codec.write).or declaration.rawParameters

/-- A function can be called: it has a name, and its parameters are described by an object or not at
all. -/
structure Conversation.Declaration.Callable (declaration : Declaration) : Prop where
  named : declaration.name ≠ ""
  isObject : ∀ form ∈ declaration.schemaForm, ∃ members, form = .object members

/-- The capabilities that are built into the service, in the order in which they are reported. -/
inductive Conversation.Capability
  | retrieval
  | webSearch
  | webSearchRetrieval
  | enterpriseWebSearch
  | maps
  | urlContext
  | computerUse
  | codeExecution

open Conversation (Capability)

/-- The name under which a capability is reported. -/
def Conversation.Capability.name : Capability → String
  | retrieval => "retrieval"
  | webSearch => "web_search"
  | webSearchRetrieval => "web_search_retrieval"
  | enterpriseWebSearch => "enterprise_web_search"
  | maps => "maps"
  | urlContext => "url_context"
  | computerUse => "computer_use"
  | codeExecution => "code_execution"

/-- What a tool says of a capability. Anything switches it on. -/
def Conversation.Capability.setting (tool : Tool) : Capability → Option Json.Value
  | retrieval => tool.retrieval
  | webSearch => tool.webSearch
  | webSearchRetrieval => tool.webSearchRetrieval
  | enterpriseWebSearch => tool.enterpriseWebSearch
  | maps => tool.maps
  | urlContext => tool.urlContext
  | computerUse => tool.computerUse
  | codeExecution => tool.codeExecution

/-- The service can be told of a tool: it switches on no capability, declares functions, and all of
them can be called. -/
structure Conversation.Tool.Offerable (tool : Tool) : Prop where
  plain : ∀ capability : Capability, capability.setting tool = none
  declares : tool.declarations ≠ []
  callable : ∀ declaration ∈ tool.declarations, declaration.Callable

namespace Outbound

/-- A function tool is that of a declaration. -/
structure IsFunctionOf (declaration : Declaration) (function : FunctionTool) : Prop where
  type : function.type = "function"
  name : function.name = declaration.name
  description : function.description =
    if declaration.description = "" then none else some declaration.description
  parameters : declaration.schemaForm = some (.object function.parameters) ∨
    declaration.schemaForm = none ∧
      function.parameters = [("type", .text "object"), ("properties", .object [])]
  strict : function.strict = true

/-- The failure of a schema that is no object. -/
inductive NoObject : Json.Value → Failure → Prop
  | null : NoObject .null .emptySchema
  | boolean (value : Bool) : NoObject (.boolean value) (.invalidSchema "boolean")
  | number (value : Json.Number) : NoObject (.number value) (.invalidSchema "number")
  | text (value : String) : NoObject (.text value) (.invalidSchema "string")
  | array (items : List Json.Value) : NoObject (.array items) (.invalidSchema "array")

/-- The failure of a declaration at a position of a tool at a position. -/
inductive DeclarationRefused (tool index : Nat) (declaration : Declaration) : Failure → Prop
  | nameless (unnamed : declaration.name = "") :
      DeclarationRefused tool index declaration (.declarationWithoutName tool index)
  | schema {form : Json.Value} {failure : Failure} (named : declaration.name ≠ "")
      (given : declaration.schemaForm = some form) (noObject : NoObject form failure) :
      DeclarationRefused tool index declaration failure

/-- The failure of a tool at a position. A capability counts before the declarations are looked at,
and of these the first one that cannot be called. -/
inductive ToolRefused (index : Nat) (tool : Tool) : Failure → Prop
  | capability {capability : Capability} (present : capability.setting tool ≠ none)
      (first : ∀ earlier : Capability, earlier.ctorIdx < capability.ctorIdx →
        earlier.setting tool = none) :
      ToolRefused index tool (.builtInTool index capability.name)
  | noFunctions (plain : ∀ capability : Capability, capability.setting tool = none)
      (nothing : tool.declarations = []) : ToolRefused index tool (.toolWithoutFunctions index)
  | declaration {position : Nat} {declaration : Declaration} {failure : Failure}
      (plain : ∀ capability : Capability, capability.setting tool = none)
      (there : tool.declarations[position]? = some declaration)
      (first : ∀ earlier ∈ tool.declarations.take position, earlier.Callable)
      (refused : DeclarationRefused index position declaration failure) :
      ToolRefused index tool failure

/-! ## Declarations -/

/-- A schema must be an object. -/
theorem judged_schemaFields (form : Json.Value) :
    Judged (schemaFields form) (fun members => form = .object members) (NoObject form) := by
  constructor
  · intro members
    cases form <;> simp [schemaFields]
  · intro failure
    constructor
    · intro refused
      cases form <;> cases refused <;> constructor
    · intro refused
      cases refused <;> rfl

/-- The parameters of a declaration: those of its schema, or none at all. -/
def ParametersOf (declaration : Declaration) (parameters : Json.Fields) : Prop :=
  declaration.schemaForm = some (.object parameters) ∨
    declaration.schemaForm = none ∧ parameters = noParameters

theorem judged_parameterFields (declaration : Declaration) :
    Judged (parameterFields declaration) (ParametersOf declaration) (fun failure =>
      ∃ form, declaration.schemaForm = some form ∧ NoObject form failure) := by
  have outcome : parameterFields declaration =
      declaration.schemaForm.elim (.ok noParameters) schemaFields := by
    rw [parameterFields, Declaration.schemaForm]
    cases declaration.parameters <;> cases declaration.rawParameters <;> rfl
  rw [outcome]
  unfold ParametersOf
  cases declaration.schemaForm with
  | none =>
      refine .of_ok (fun other => ?_) ?_
      · simp
      · rintro failure ⟨form, ⟨⟩, -⟩
  | some form =>
      have judged := judged_schemaFields form
      constructor
      · intro parameters
        simp [judged.ok]
      · intro failure
        simp [judged.error]

/-- The function tool of a declaration with these parameters. -/
def functionOf (declaration : Declaration) (parameters : Json.Fields) : FunctionTool where
  name := declaration.name
  description := nonempty? declaration.description
  parameters := parameters
  strict := true

theorem isFunctionOf_iff {declaration : Declaration} {function : FunctionTool} :
    IsFunctionOf declaration function ↔
      ∃ parameters, ParametersOf declaration parameters ∧
        function = functionOf declaration parameters := by
  have description : nonempty? declaration.description =
      if declaration.description = "" then none else some declaration.description := by
    simp only [nonempty?, String.isEmpty_iff]
  constructor
  · intro isFunction
    obtain ⟨type, name, shown, parameters, strict⟩ := function
    obtain ⟨rfl, rfl, rfl, isParameters, rfl⟩ := isFunction
    exact ⟨parameters, isParameters, by rw [functionOf, description]⟩
  · rintro ⟨parameters, isParameters, rfl⟩
    exact ⟨rfl, rfl, description, isParameters, rfl⟩

/-- **One declaration** becomes its function tool, or is refused. -/
theorem judged_functionTool (tool index : Nat) (declaration : Declaration) :
    Judged (functionTool tool index declaration)
      (fun function => declaration.Callable ∧ IsFunctionOf declaration function)
      (DeclarationRefused tool index declaration) := by
  by_cases unnamed : declaration.name = ""
  · have outcome : functionTool tool index declaration =
        .error (.declarationWithoutName tool index) := if_pos (String.isEmpty_iff.mpr unnamed)
    rw [outcome]
    refine .of_error ?_ fun failure => ⟨?_, ?_⟩
    · rintro function ⟨callable, -⟩
      exact callable.named unnamed
    · intro refused
      cases refused with
      | nameless => rfl
      | schema named => exact absurd unnamed named
    · rintro rfl
      exact .nameless unnamed
  · have outcome : functionTool tool index declaration =
        (parameterFields declaration).map (functionOf declaration) :=
      if_neg (mt String.isEmpty_iff.mp unnamed)
    have judged := (judged_parameterFields declaration).map (functionOf declaration)
    rw [outcome]
    constructor
    · intro function
      rw [judged.ok, ← isFunctionOf_iff]
      refine ⟨fun isFunction => ⟨⟨unnamed, ?_⟩, isFunction⟩, And.right⟩
      intro form given
      rcases isFunction.parameters with object | ⟨absent, -⟩
      · exact ⟨_, Option.some.inj (given.symm.trans object)⟩
      · exact absurd (given.symm.trans absent) nofun
    · intro failure
      rw [judged.error]
      constructor
      · rintro ⟨form, given, noObject⟩
        exact .schema unnamed given noObject
      · intro refused
        cases refused with
        | nameless isUnnamed => exact absurd isUnnamed unnamed
        | schema _ given noObject => exact ⟨_, given, noObject⟩

/-- Nothing is wrong with a declaration exactly if it can be called. -/
theorem not_declarationRefused_iff (tool index : Nat) (declaration : Declaration) :
    (∀ failure, ¬ DeclarationRefused tool index declaration failure) ↔ declaration.Callable := by
  constructor
  · intro fine
    obtain ⟨function, -, callable, -⟩ := (judged_functionTool tool index declaration).exists_made fine
    exact callable
  · intro callable failure refused
    cases refused with
    | nameless unnamed => exact callable.named unnamed
    | schema _ given noObject =>
        obtain ⟨members, rfl⟩ := callable.isObject _ given
        cases noObject

/-- A declaration that can be called makes its function tool. -/
def MakesFunction (declaration : Declaration) (functions : List FunctionTool) : Prop :=
  ∃ function, (declaration.Callable ∧ IsFunctionOf declaration function) ∧ functions = [function]

theorem declaredTools_eq (tool index : Nat) (declarations : List Declaration) :
    declaredTools tool index declarations =
      gather (fun numbered => (functionTool tool numbered.2 numbered.1).map fun function =>
        [function]) (declarations.zipIdx index) := by
  induction declarations generalizing index with
  | nil => rfl
  | cons declaration declarations ih =>
      rw [declaredTools, List.zipIdx_cons, gather, ih]
      cases functionTool tool index declaration <;> rfl

/-- **The declarations of a tool** become function tools in order, or the first one that cannot be
called is refused. -/
theorem judged_declaredTools (tool : Nat) (declarations : List Declaration) :
    Judged (declaredTools tool 0 declarations)
      (fun functions => (∀ declaration ∈ declarations, declaration.Callable) ∧
        List.Forall₂ IsFunctionOf declarations functions)
      (fun failure => ∃ position declaration, declarations[position]? = some declaration ∧
        (∀ earlier ∈ declarations.take position, earlier.Callable) ∧
          DeclarationRefused tool position declaration failure) := by
  have each (numbered : Declaration × Nat) :
      Judged ((functionTool tool numbered.2 numbered.1).map fun function => [function])
        (MakesFunction numbered.1) (DeclarationRefused tool numbered.2 numbered.1) :=
    (judged_functionTool tool numbered.2 numbered.1).map fun function => [function]
  have judged := Judged.gather each (declarations.zipIdx 0)
  rw [← declaredTools_eq] at judged
  constructor
  · intro functions
    rw [judged.ok, rowMakes_zipIdx_iff]
    exact rowMakes_one_iff.trans (List.forall₂_and_left _ _)
  · intro failure
    rw [judged.error, firstOffends_zipIdx_iff fun declaration index =>
      not_declarationRefused_iff tool index declaration]
    simp only [Nat.zero_add]

/-! ## Capabilities -/

/-- All capabilities, in order. -/
def capabilities : List Capability :=
  [.retrieval, .webSearch, .webSearchRetrieval, .enterpriseWebSearch, .maps, .urlContext,
    .computerUse, .codeExecution]

theorem mem_capabilities (capability : Capability) : capability ∈ capabilities := by
  cases capability <;> simp [capabilities]

theorem pairwise_capabilities :
    capabilities.Pairwise fun earlier later => earlier.ctorIdx < later.ctorIdx := by
  decide

/-- The first capability of a kind is one before which there is none of the kind. -/
theorem find?_capabilities_eq_some_iff {isKind : Capability → Bool} {capability : Capability} :
    capabilities.find? isKind = some capability ↔ isKind capability = true ∧
      ∀ earlier : Capability, earlier.ctorIdx < capability.ctorIdx → isKind earlier = false := by
  have ordered := pairwise_capabilities
  rw [List.find?_eq_some_iff_append]
  refine and_congr_right fun _ => ⟨?_, fun first => ?_⟩
  · rintro ⟨before, after, split, none⟩ earlier less
    rw [split, List.pairwise_append, List.pairwise_cons] at ordered
    have there := mem_capabilities earlier
    rw [split, List.mem_append, List.mem_cons] at there
    rcases there with inFront | rfl | behind
    · simpa using none earlier inFront
    · exact absurd less (Nat.lt_irrefl _)
    · exact absurd less (Nat.lt_asymm (ordered.2.1.1 earlier behind))
  · obtain ⟨before, after, split⟩ := List.append_of_mem (mem_capabilities capability)
    rw [split, List.pairwise_append] at ordered
    refine ⟨before, after, split, fun earlier inFront => ?_⟩
    simp [first earlier (ordered.2.2 earlier inFront capability (List.mem_cons_self ..))]

theorem capability?_eq (tool : Tool) :
    tool.capability? =
      (capabilities.find? fun capability => (capability.setting tool).isSome).map
        Capability.name := by
  have table : tool.capabilities =
      capabilities.map fun capability => (capability.name, capability.setting tool) := rfl
  rw [Tool.capability?, table, List.find?_map, Option.map_map]
  rfl

/-- The capability that is reported is the first one that is present. -/
theorem capability?_eq_some_iff {tool : Tool} {name : String} :
    tool.capability? = some name ↔
      ∃ capability : Capability, capability.name = name ∧ capability.setting tool ≠ none ∧
        ∀ earlier : Capability, earlier.ctorIdx < capability.ctorIdx →
          earlier.setting tool = none := by
  simp only [capability?_eq, Option.map_eq_some_iff, find?_capabilities_eq_some_iff,
    Option.isSome_iff_ne_none, Option.isSome_eq_false_iff, Option.isNone_iff_eq_none]
  exact exists_congr fun capability => and_comm

theorem capability?_eq_none_iff {tool : Tool} :
    tool.capability? = none ↔ ∀ capability : Capability, capability.setting tool = none := by
  simp only [capability?_eq, Option.map_eq_none_iff, List.find?_eq_none, Bool.not_eq_true,
    Option.isSome_eq_false_iff, Option.isNone_iff_eq_none]
  exact ⟨fun off capability => off capability (mem_capabilities capability),
    fun off capability _ => off capability⟩

/-! ## Tools -/

/-- A capability comes before everything else that is wrong with a tool. -/
theorem toolRefused_of_capability {tool : Tool} {name : String}
    (switchedOn : tool.capability? = some name) (index : Nat) (failure : Failure) :
    ToolRefused index tool failure ↔ failure = .builtInTool index name := by
  have notPlain : ¬ ∀ capability : Capability, capability.setting tool = none := by
    rw [← capability?_eq_none_iff, switchedOn]
    exact nofun
  constructor
  · intro refused
    cases refused with
    | capability present first =>
        have other := capability?_eq_some_iff.mpr ⟨_, rfl, present, first⟩
        rw [Option.some.inj (other.symm.trans switchedOn)]
    | noFunctions plain => exact absurd plain notPlain
    | declaration plain => exact absurd plain notPlain
  · rintro rfl
    obtain ⟨capability, rfl, present, first⟩ := capability?_eq_some_iff.mp switchedOn
    exact .capability present first

/-- A tool without capabilities is refused because of its declarations. -/
theorem toolRefused_of_plain {tool : Tool}
    (plain : ∀ capability : Capability, capability.setting tool = none) (index : Nat)
    (failure : Failure) :
    ToolRefused index tool failure ↔
      tool.declarations = [] ∧ failure = .toolWithoutFunctions index ∨
        ∃ position declaration, tool.declarations[position]? = some declaration ∧
          (∀ earlier ∈ tool.declarations.take position, earlier.Callable) ∧
            DeclarationRefused index position declaration failure := by
  constructor
  · intro refused
    cases refused with
    | capability present => exact absurd (plain _) present
    | noFunctions _ nothing => exact .inl ⟨nothing, rfl⟩
    | declaration _ there first refused => exact .inr ⟨_, _, there, first, refused⟩
  · rintro (⟨nothing, rfl⟩ | ⟨position, declaration, there, first, refused⟩)
    · exact .noFunctions plain nothing
    · exact .declaration plain there first refused

/-- A tool that can be offered makes the function tools of its declarations. -/
def MakesFunctions (tool : Tool) (functions : List FunctionTool) : Prop :=
  tool.Offerable ∧ List.Forall₂ IsFunctionOf tool.declarations functions

/-- **One tool** becomes the function tools of its declarations, or is refused. -/
theorem judged_toolFunctions (index : Nat) (tool : Tool) :
    Judged (toolFunctions index tool) (MakesFunctions tool) (ToolRefused index tool) := by
  cases switchedOn : tool.capability? with
  | some name =>
      have outcome : toolFunctions index tool = .error (.builtInTool index name) := by
        rw [toolFunctions, switchedOn]
      rw [outcome]
      refine .of_error ?_ (toolRefused_of_capability switchedOn index)
      rintro functions ⟨offerable, -⟩
      rw [capability?_eq_none_iff.mpr offerable.plain] at switchedOn
      cases switchedOn
  | none =>
      have plain := capability?_eq_none_iff.mp switchedOn
      by_cases nothing : tool.declarations = []
      · have outcome : toolFunctions index tool = .error (.toolWithoutFunctions index) := by
          rw [toolFunctions, switchedOn]
          exact if_pos (List.isEmpty_iff.mpr nothing)
        rw [outcome]
        refine .of_error ?_ fun failure => ?_
        · rintro functions ⟨offerable, -⟩
          exact offerable.declares nothing
        · rw [toolRefused_of_plain plain, nothing]
          simp
      · have outcome : toolFunctions index tool = declaredTools index 0 tool.declarations := by
          rw [toolFunctions, switchedOn]
          exact if_neg (mt List.isEmpty_iff.mp nothing)
        have judged := judged_declaredTools index tool.declarations
        rw [outcome]
        constructor
        · intro functions
          rw [judged.ok]
          constructor
          · rintro ⟨callable, functions⟩
            exact ⟨⟨plain, nothing, callable⟩, functions⟩
          · rintro ⟨offerable, functions⟩
            exact ⟨offerable.callable, functions⟩
        · intro failure
          rw [judged.error, toolRefused_of_plain plain]
          simp only [nothing, false_and, false_or]

/-- Nothing is wrong with a tool exactly if the service can be told of it. -/
theorem not_toolRefused_iff (index : Nat) (tool : Tool) :
    (∀ failure, ¬ ToolRefused index tool failure) ↔ tool.Offerable := by
  constructor
  · intro fine
    obtain ⟨functions, -, offerable, -⟩ := (judged_toolFunctions index tool).exists_made fine
    exact offerable
  · intro offerable failure refused
    rw [toolRefused_of_plain offerable.plain] at refused
    rcases refused with ⟨nothing, -⟩ | ⟨position, declaration, there, -, refused⟩
    · exact offerable.declares nothing
    · have callable := offerable.callable declaration (List.mem_of_getElem? there)
      exact (not_declarationRefused_iff index position declaration).mpr callable failure refused

/-! ## All tools -/

theorem functionToolsFrom_eq (index : Nat) (tools : List Tool) :
    functionToolsFrom index tools =
      gather (fun numbered => toolFunctions numbered.2 numbered.1) (tools.zipIdx index) := by
  induction tools generalizing index with
  | nil => rfl
  | cons tool tools ih => rw [functionToolsFrom, List.zipIdx_cons, gather, ih]

/-- Tools make the function tools of all their declarations. -/
theorem rowMakes_makesFunctions_iff {tools : List Tool} {functions : List FunctionTool} :
    RowMakes MakesFunctions tools functions ↔
      (∀ tool ∈ tools, tool.Offerable) ∧
        List.Forall₂ IsFunctionOf (tools.flatMap fun tool => tool.declarations) functions := by
  induction tools generalizing functions with
  | nil => simp [rowMakes_nil_iff]
  | cons tool tools ih =>
      rw [rowMakes_cons_iff, List.flatMap_cons, List.forall_mem_cons]
      constructor
      · rintro ⟨first, later, ⟨offerable, here⟩, rest, rfl⟩
        obtain ⟨others, there⟩ := ih.mp rest
        exact ⟨⟨offerable, others⟩, List.rel_append here there⟩
      · rintro ⟨⟨offerable, others⟩, whole⟩
        have here := List.forall₂_take tool.declarations.length whole
        have there := List.forall₂_drop tool.declarations.length whole
        rw [List.take_left] at here
        rw [List.drop_left] at there
        exact ⟨_, _, ⟨offerable, here⟩, ih.mpr ⟨others, there⟩, (List.take_append_drop _ _).symm⟩

theorem judged_functionTools (tools : List Tool) :
    Judged (functionTools tools)
      (fun functions => (∀ tool ∈ tools, tool.Offerable) ∧
        List.Forall₂ IsFunctionOf (tools.flatMap fun tool => tool.declarations) functions)
      (fun failure => ∃ index tool, tools[index]? = some tool ∧
        (∀ earlier ∈ tools.take index, earlier.Offerable) ∧ ToolRefused index tool failure) := by
  have judged := Judged.gather
    (fun numbered : Tool × Nat => judged_toolFunctions numbered.2 numbered.1) (tools.zipIdx 0)
  rw [← functionToolsFrom_eq] at judged
  constructor
  · intro functions
    rw [functionTools, judged.ok, rowMakes_zipIdx_iff]
    exact rowMakes_makesFunctions_iff
  · intro failure
    rw [functionTools, judged.error,
      firstOffends_zipIdx_iff fun tool index => not_toolRefused_iff index tool]
    simp only [Nat.zero_add]

/-- **The functions of tools by what they offer.** There are function tools exactly if the service can
be told of every tool. They are then those of all declarations, tool by tool and in order: strict ones,
with the name and the description of the declaration, and with its schema or the schema of an object
without properties. Otherwise the failure is that of the first tool that the service cannot be told of,
at its position: a capability, before all else; no declarations; or the first declaration that cannot
be called, for want of a name at its position, or because its schema is no object. -/
theorem functionTools_by_offer (tools : List Tool) :
    ((∃ functions, functionTools tools = .ok functions) ↔ ∀ tool ∈ tools, tool.Offerable) ∧
      (∀ functions, functionTools tools = .ok functions ↔
        (∀ tool ∈ tools, tool.Offerable) ∧
          List.Forall₂ IsFunctionOf (tools.flatMap fun tool => tool.declarations) functions) ∧
      ∀ failure, functionTools tools = .error failure ↔
        ∃ index tool, tools[index]? = some tool ∧
          (∀ earlier ∈ tools.take index, earlier.Offerable) ∧ ToolRefused index tool failure := by
  have judged := judged_functionTools tools
  refine ⟨⟨?_, ?_⟩, judged.ok, judged.error⟩
  · rintro ⟨functions, succeeds⟩
    exact ((judged.ok functions).mp succeeds).1
  · intro offerable
    have fine : ∀ failure, ¬ ∃ index tool, tools[index]? = some tool ∧
        (∀ earlier ∈ tools.take index, earlier.Offerable) ∧ ToolRefused index tool failure := by
      rintro failure ⟨index, tool, there, -, refused⟩
      have isOfferable := offerable tool (List.mem_of_getElem? there)
      exact (not_toolRefused_iff index tool).mpr isOfferable failure refused
    obtain ⟨functions, succeeds, -⟩ := judged.exists_made fine
    exact ⟨functions, succeeds⟩

end Outbound
end ResponsesBridge
