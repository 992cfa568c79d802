/-!
# Word documentation

What a reader is told about a word of RIDDL when the cursor rests on it. Every
documented keyword, predefined type and readability word stands here with its
sentence.

## Main definitions

* `keywordDocs`: The documented keywords.
* `predefinedDocs`: The predefined types.
* `readabilityDocs`: The readability words.
-/

namespace RiddlEditor

/-- The documented keywords. -/
def keywordDocs : List (String × String) :=
  [("domain",
     "Top-level container for a bounded context in DDD. Groups related contexts, types, and definitions."),
   ("context",
     "A bounded context containing entities, types, and functionality. Represents a cohesive subsystem."),
   ("entity", "A domain entity with identity and lifecycle. Can be an aggregate root."),
   ("adaptor", "An adapter for external systems integration."),
   ("projector", "Projects events into a read model."),
   ("repository", "Storage abstraction for aggregates."),
   ("saga", "Coordinates long-running transactions across aggregates."),
   ("type",
     "A type definition. Can be a simple type, record, enumeration, or other type expression."),
   ("record", "A record type with named fields."),
   ("enumeration", "An enumeration type with named values."),
   ("alternation", "A sum type (union) that can be one of several alternatives."),
   ("aggregation", "An aggregation type representing a collection."),
   ("command",
     "A command that triggers behavior. Commands are handled by entities to produce events."),
   ("event", "An event representing something that happened in the domain. Events are facts."),
   ("query", "A query for retrieving information without side effects."),
   ("result", "The result type returned by a query or function."),
   ("handler", "Handles commands or events and implements business logic."),
   ("function", "A pure function definition."),
   ("invariant", "A business rule or constraint that must always be true."),
   ("state", "The state/data structure of an entity or aggregate."),
   ("inlet", "An input port for a processor or pipe."),
   ("outlet", "An output port for a processor or pipe."),
   ("connector", "Connects an outlet to an inlet for data flow."),
   ("streamlet", "A stream processing element."),
   ("flow", "A data flow or processing pipeline."),
   ("source", "A source of streaming data."),
   ("sink", "A destination for streaming data."),
   ("merge", "Merges multiple streams into one."),
   ("split", "Splits one stream into multiple."),
   ("router", "Routes messages based on content."),
   ("pipe", "A simple data transformation pipe."),
   ("void", "Represents no data or empty stream."),
   ("epic", "A user story or use case describing system behavior from user perspective."),
   ("story", "A user story within an epic."),
   ("case", "A use case scenario."),
   ("interaction", "An interaction between user and system."),
   ("step", "A step in a user story or use case."),
   ("author", "Defines an author or contributor to the model."),
   ("user", "A user role in the system."),
   ("group", "A group of users or a team."),
   ("organization", "An organization owning or using the system."),
   ("option",
     "Options/modifiers for definitions (e.g., aggregate, transient, finite, technology)."),
   ("term", "A glossary term definition."),
   ("include", "Includes another RIDDL file."),
   ("import", "Imports definitions from another context or domain."),
   ("briefly", "Provides a brief one-line description."),
   ("described", "Introduces a detailed description block."),
   ("explained", "Provides an explanation or rationale."),
   ("send", "Sends a message to an entity or outlet."),
   ("tell", "Sends a command or message to a handler."),
   ("call", "Calls a function or invokes behavior."),
   ("reply", "Sends a reply message in response to a query or command."),
   ("become", "Changes state in a state machine or saga."),
   ("when", "Introduces a condition or temporal clause."),
   ("if", "Conditional branching."),
   ("else", "Alternative branch in conditional logic."),
   ("do", "Introduces an action block."),
   ("foreach", "Iterates over a collection."),
   ("on", "Event handler trigger (e.g., \"on init\", \"on command\")."),
   ("field", "Defines a field in a record, state, or message type."),
   ("value", "A constant or enumeration value."),
   ("constant", "A constant value definition."),
   ("reference", "A reference to another definition."),
   ("link", "Links to external documentation or resources."),
   ("requires", "Specifies a required dependency or precondition."),
   ("required", "Marks a field as required (non-optional)."),
   ("optional", "Marks a field or element as optional."),
   ("init", "Initialization logic or state."),
   ("execute", "Executes a command or action."),
   ("returns", "Specifies the return type of a function."),
   ("example", "Provides an example usage or scenario."),
   ("focus", "Highlights the primary focus or subject."),
   ("shown", "Indicates something should be shown in documentation."),
   ("contains", "Indicates containment relationship."),
   ("relationship", "Defines a relationship between entities.")]

/-- The predefined types. -/
def predefinedDocs : List (String × String) :=
  [("String", "A sequence of Unicode characters."),
   ("Integer", "A whole number (64-bit signed integer)."),
   ("Number", "A numeric value (double-precision floating point)."),
   ("Boolean", "A true or false value."),
   ("Date", "A calendar date."),
   ("Time", "A time of day."),
   ("DateTime", "A specific point in time."),
   ("Timestamp", "A timestamp with millisecond precision."),
   ("Duration", "A length of time."),
   ("URL", "A uniform resource locator."),
   ("Id",
     "An identifier type. Usage: `Id(EntityName)` creates a unique identifier for that entity."),
   ("UUID", "A universally unique identifier (128-bit)."),
   ("Decimal", "A decimal number with exact precision."),
   ("Currency", "A monetary value with currency code."),
   ("Length", "A physical length measurement."),
   ("Mass", "A mass/weight measurement."),
   ("Temperature", "A temperature measurement."),
   ("Nothing", "The unit type representing no value."),
   ("Abstract", "An abstract type that must be refined."),
   ("Optional", "An optional value that may or may not be present. Usage: `TypeName?`")]

/-- The readability words, which a reader needs and the compiler does not. -/
def readabilityDocs : List (String × String) :=
  [("and", "Conjunction for connecting related clauses or items."),
   ("are", "Plural form of \"is\" for readability."),
   ("as", "Indicates a role or alias."),
   ("at", "Indicates location or position."),
   ("by", "Indicates agency or authorship."),
   ("for", "Indicates purpose or beneficiary."),
   ("from", "Indicates source or origin."),
   ("in", "Indicates containment or location."),
   ("is", "Singular form for readability and natural language flow."),
   ("of", "Indicates possession or relation."),
   ("so", "Indicates consequence or purpose."),
   ("that", "Introduces a subordinate clause."),
   ("to", "Indicates direction or recipient."),
   ("wants", "Expresses user desire in user stories."),
   ("with", "Indicates accompaniment or association with something.")]

end RiddlEditor
