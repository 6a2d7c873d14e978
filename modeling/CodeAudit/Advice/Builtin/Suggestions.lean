import CodeAudit.Advice.Suggestion
import CodeAudit.Rule.Recognizer

/-!
# Built-in suggestions

Refactorings that are suggested when their occasion shows often enough.
-/

namespace CodeAudit.Advice.Builtin

open CodeAudit.Rule (pattern)

def codeLines (lines : List String) : String :=
  String.intercalate "\n" lines

def suggestions : List SuggestionRule :=
  [
    { id := "CS-SUG001"
      title := "Consider Result Pattern for Error Handling"
      level := "implementation"
      detector := pattern "return\\s+null\\s*;|return\\s+undefined\\s*;"
      threshold := 2
      adopted := some (pattern "Result<|Either<|Ok\\(|Err\\(")
      approach := {
        name := "Result/Either Pattern"
        description :=
            "Explicit success/failure return types that force callers to handle both cases"
        why :=
            ("Returning null/undefined on errors makes it impossible to distinguish \"not " ++
              "found\" from \"operation failed\"")
        benefits := [
          "Callers must handle error cases explicitly",
          "Type system catches unhandled errors",
          "Clear distinction between \"no data\" and \"error\"",
          "Self-documenting function signatures"]
        tradeoffs := [
          "More verbose return type handling",
          "Requires consistent adoption across codebase",
          "Learning curve for team"]
        codeSample := codeLines [
          "// Before",
          "function getUser(id: string): User | null \x7b",
          "  if (error) return null;",
          "  return user;",
          "\x7d",
          "",
          "// After",
          "type Result<T, E> = \x7b ok: true; value: T \x7d | \x7b ok: false; error: E \x7d;",
          "",
          "function getUser(id: string): Result<User, 'not_found' | 'db_error'> \x7b",
          "  if (notFound) return \x7b ok: false, error: 'not_found' \x7d;",
          "  if (dbError) return \x7b ok: false, error: 'db_error' \x7d;",
          "  return \x7b ok: true, value: user \x7d;",
          "\x7d"] }
      plan := {
        kind := "consider"
        description := "Introduce Result type for functions that can fail"
        steps := [
          "Define a Result<T, E> type in a shared types file",
          "Update function return types to use Result",
          "Replace return null with \x7b ok: false, error: reason \x7d",
          "Update callers to check result.ok before accessing value"]
        change := some {
          before := "return null;"
          after := "return \x7b ok: false, error: 'operation_failed' \x7d;" } } },
    { id := "CS-SUG002"
      title := "Extract Factory for Complex Object Creation"
      level := "design"
      detector := pattern "new\\s+\\w+\\(\\s*\\\x7b[\\s\\S]\x7b100,\x7d?\\\x7d\\s*\\)"
      threshold := 2
      approach := {
        name := "Factory Pattern"
        description := "Encapsulate complex object creation in dedicated factory functions"
        why := "Large inline object construction is hard to test and reuse"
        benefits := [
          "Centralized object creation logic",
          "Easier to test with mock factories",
          "Reusable default configurations",
          "Clear creation intent in code"]
        tradeoffs := [
          "Additional indirection",
          "More files/functions to maintain"]
        codeSample := codeLines [
          "// Before",
          "const user = new User(\x7b",
          "  name: data.name,",
          "  email: data.email,",
          "  role: data.role || 'user',",
          "  createdAt: new Date(),",
          "  // ... many more fields",
          "\x7d);",
          "",
          "// After",
          "function createUser(data: CreateUserInput): User \x7b",
          "  return new User(\x7b",
          "    ...defaultUserConfig,",
          "    ...data,",
          "    createdAt: new Date(),",
          "  \x7d);",
          "\x7d",
          "",
          "const user = createUser(data);"] }
      plan := {
        kind := "refactor"
        description := "Extract factory function for complex object creation"
        steps := [
          "Identify the class being instantiated",
          "Create a createXxx function that encapsulates the construction",
          "Move default values and transformations into the factory",
          "Replace new Xxx(\x7b...\x7d) calls with createXxx(...)"] } },
    { id := "CS-SUG003"
      title := "Add Repository Layer for Data Access"
      level := "architectural"
      detector := pattern "(?:prisma|db|knex|sequelize|mongoose)\\.\\w+\\.\\w+"
      threshold := 3
      adopted := some (pattern "Repository")
      approach := {
        name := "Repository Pattern"
        description := "Abstract data access behind repository interfaces"
        why :=
            ("Direct ORM/database calls scattered in business logic make testing hard and " ++
              "create tight coupling")
        benefits := [
          "Business logic independent of data layer",
          "Easy to mock for testing",
          "Can swap databases without changing business code",
          "Centralizes query logic"]
        tradeoffs := [
          "Additional abstraction layer",
          "More boilerplate code",
          "Can be overkill for simple CRUD apps"]
        codeSample := codeLines [
          "// Before (in service)",
          "async function getActiveUsers() \x7b",
          "  return prisma.user.findMany(\x7b where: \x7b active: true \x7d \x7d);",
          "\x7d",
          "",
          "// After",
          "// userRepository.ts",
          "interface UserRepository \x7b",
          "  findActive(): Promise<User[]>;",
          "\x7d",
          "",
          "class PrismaUserRepository implements UserRepository \x7b",
          "  async findActive() \x7b",
          "    return prisma.user.findMany(\x7b where: \x7b active: true \x7d \x7d);",
          "  \x7d",
          "\x7d",
          "",
          "// userService.ts",
          "class UserService \x7b",
          "  constructor(private userRepo: UserRepository) \x7b\x7d",
          "",
          "  async getActiveUsers() \x7b",
          "    return this.userRepo.findActive();",
          "  \x7d",
          "\x7d"] }
      plan := {
        kind := "refactor"
        description := "Create repository interfaces and implementations"
        steps := [
          "Identify all direct database calls in services/controllers",
          "Group related queries by entity (User, Order, etc.)",
          "Create a Repository interface for each entity",
          "Implement the interface with your ORM",
          "Inject repositories into services via constructor"] } },
    { id := "CS-SUG004"
      title := "Use Guard Clauses for Cleaner Logic"
      level := "implementation"
      detector := pattern
          ("if\\s*\\([^)]+\\)\\s*\\\x7b[^\x7b\x7d]\x7b50,\x7d\\\x7d\\s*else\\s*\\\x7b[^\x7b" ++
            "\x7d]\x7b10,\x7d\\\x7d")
      threshold := 2
      approach := {
        name := "Guard Clauses"
        description := "Early returns for edge cases to reduce nesting and clarify happy path"
        why := "Deeply nested if-else blocks are hard to follow and maintain"
        benefits := [
          "Reduced cognitive load",
          "Clear separation of edge cases and main logic",
          "Easier to add new conditions",
          "More linear code flow"]
        tradeoffs := [
          "Multiple return points (some style guides discourage)",
          "May not work well with resource cleanup needs"]
        codeSample := codeLines [
          "// Before",
          "function processOrder(order) \x7b",
          "  if (order) \x7b",
          "    if (order.items.length > 0) \x7b",
          "      if (order.payment) \x7b",
          "        // actual logic here",
          "        return result;",
          "      \x7d else \x7b",
          "        throw new Error('No payment');",
          "      \x7d",
          "    \x7d else \x7b",
          "      throw new Error('Empty order');",
          "    \x7d",
          "  \x7d else \x7b",
          "    throw new Error('No order');",
          "  \x7d",
          "\x7d",
          "",
          "// After",
          "function processOrder(order) \x7b",
          "  if (!order) throw new Error('No order');",
          "  if (order.items.length === 0) throw new Error('Empty order');",
          "  if (!order.payment) throw new Error('No payment');",
          "",
          "  // actual logic here, no nesting",
          "  return result;",
          "\x7d"] }
      plan := {
        kind := "refactor"
        description := "Flatten nested conditionals with early returns"
        steps := [
          "Identify the deepest nested condition (usually the happy path)",
          "Invert outer conditions and return/throw early",
          "Move main logic to the end, unnested",
          "Remove else blocks that are no longer needed"] } },
    { id := "CS-SUG005"
      title := "Consider Strategy Pattern for Conditional Logic"
      level := "design"
      detector := pattern
          ("switch\\s*\\([^)]+\\)\\s*\\\x7b(?:(?:(?!\\bcase\\s)[^\x7d])*\\bcase\\s+['\\\"`]?" ++
            "\\w+['\\\"`]?\\s*:)\x7b4,\x7d")
      approach := {
        name := "Strategy Pattern"
        description := "Replace complex switch/if-else with strategy objects"
        why :=
            ("Large switch statements violate the Open/Closed principle: adding new cases " ++
              "requires modifying existing code")
        benefits := [
          "Add new behaviors without changing existing code",
          "Each strategy is independently testable",
          "Strategies can be swapped at runtime",
          "Cleaner separation of concerns"]
        tradeoffs := [
          "More files/classes",
          "Overhead for simple cases",
          "Need to manage strategy registration"]
        codeSample := codeLines [
          "// Before",
          "function calculatePrice(type, amount) \x7b",
          "  switch (type) \x7b",
          "    case 'standard': return amount;",
          "    case 'premium': return amount * 0.9;",
          "    case 'vip': return amount * 0.8;",
          "    case 'enterprise': return amount * 0.7;",
          "    // adding new type = modify this function",
          "  \x7d",
          "\x7d",
          "",
          "// After",
          "const pricingStrategies = \x7b",
          "  standard: (amount) => amount,",
          "  premium: (amount) => amount * 0.9,",
          "  vip: (amount) => amount * 0.8,",
          "  enterprise: (amount) => amount * 0.7,",
          "\x7d;",
          "",
          "function calculatePrice(type, amount) \x7b",
          "  const strategy = pricingStrategies[type];",
          "  if (!strategy) throw new Error('Unknown type');",
          "  return strategy(amount);",
          "\x7d"] }
      plan := {
        kind := "refactor"
        description := "Extract switch cases into strategy object"
        steps := [
          "Create a strategies object/map",
          "Move each case logic into a strategy function",
          "Replace switch with strategy lookup and execution",
          "Add error handling for unknown strategies"] } }]

end CodeAudit.Advice.Builtin
