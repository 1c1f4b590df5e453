import ErrorCatalog.Workspace
/-!
# The starter schema

The schema that a new project begins with: one entry, and comments that show how to add more. It is
only ever put where nothing stands yet.
-/

namespace ErrorCatalog

namespace Starter

def introduction : List Text :=
  ["syntax = \"proto3\";",
    "package errorcode;",
    "option go_package = \"./errorcode\";",
    "",
    "// ErrorCode lists every error the service can return.",
    "//",
    "//   NAME = CODE;  // message @http=STATUS   public: clients get STATUS and message",
    "//   NAME = CODE;  // description            internal: clients get 500 and the default message",
    "//",
    "// Example:",
    "//   USER_NOT_FOUND = 10001;  // 用户不存在 @http=404",
    "//   DB_TIMEOUT     = 20001;  // 数据库超时"]

def block : List Text :=
  ["enum ErrorCode \x7b",
    "    UNKNOWN         = 0;      // 未知错误",
    "",
    "    // business errors (10000-19999)",
    "    // USER_NOT_FOUND  = 10001;  // 用户不存在 @http=404",
    "    // INVALID_PARAM   = 10002;  // 参数错误 @http=400",
    "    // UNAUTHORIZED    = 10003;  // 未授权 @http=401",
    "    // FORBIDDEN       = 10004;  // 禁止访问 @http=403",
    "",
    "    // internal errors (20000-29999)",
    "    // DB_CONNECT_FAILED  = 20001;  // 数据库连接失败",
    "    // REDIS_TIMEOUT      = 20002;  // Redis超时",
    "    // RPC_CALL_FAILED    = 20003;  // RPC调用失败",
    "\x7d"]

def schema : Text :=
  Text.unlines (introduction ++ block)

/-- Writes the starter schema unless something is there; tells whether it was written. -/
def create (path : Path) : Action Bool := do
  if (← get).disk.exists? path then
    Action.warn (.schemaExists path)
    pure false
  else
    Action.writeFile path (Text.encode schema)
    pure true

end Starter

end ErrorCatalog
