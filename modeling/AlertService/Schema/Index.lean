import AlertService.Schema.Table

/-!
# Indexes

An index is made by one of several statements in a text. When a column is missing, the engine tells the
text from that statement on and the place in it.
-/

namespace AlertService.Schema

/-- An index on columns of a table, and what comes after its statement in the text. -/
structure Index where
  name : String
  table : String
  columns : List String
  rest : String

namespace Index

/-- How the statement begins, after another one. -/
def opening (i : Index) : String :=
  "\n\n            CREATE INDEX " ++ i.name ++ " ON " ++ i.table ++ "("

/-- The text from the statement on. -/
def text (i : Index) : String := i.opening ++ ", ".intercalate i.columns ++ ");" ++ i.rest

/-- The first column that the table does not have, with the place where it is written. -/
def missingFrom (t : Table) : (columns : List String) → (place : Nat) → Option (String × Nat)
  | [], _ => none
  | name :: rest, place =>
    if (t.column? name).isSome then missingFrom t rest (place + name.utf8ByteSize + 2)
    else some (name, place)

/-- The first of its columns that the table does not have, with its place in the text. -/
def missing? (i : Index) (t : Table) : Option (String × Nat) :=
  missingFrom t i.columns i.opening.utf8ByteSize

end Index

/-! ## The indexes of this service, the last one of a text first -/

def groupsByMaster : Index where
  name := "idx_group_master"
  table := "recipient_group"
  columns := ["master_id", "active"]
  rest := "

            CREATE TABLE recipient_recipient_group (
                recipient_group_id  TEXT NOT NULL REFERENCES recipient_group(recipient_group_id)
                                        ON DELETE CASCADE,
                recipient_id        TEXT NOT NULL REFERENCES recipient(recipient_id)
                                        ON DELETE CASCADE,
                PRIMARY KEY (recipient_group_id, recipient_id)
            );

            INSERT INTO schema_version (version) VALUES (1);
            "

def templatesByMaster : Index where
  name := "idx_template_master"
  table := "notification_template"
  columns := ["master_id"]
  rest := "

            -- template_id is only checked when the draft is confirmed
            CREATE TABLE recipient_group_draft (
                recipient_group_draft_id    TEXT PRIMARY KEY,
                master_id                   TEXT NOT NULL REFERENCES users(user_id) ON DELETE CASCADE,
                name                        TEXT NOT NULL,
                active                      INTEGER NOT NULL,
                template_id                 TEXT
            );

            CREATE TABLE recipient_group (
                recipient_group_id  TEXT PRIMARY KEY,
                master_id           TEXT NOT NULL REFERENCES users(user_id) ON DELETE CASCADE,
                name                TEXT NOT NULL,
                active              INTEGER NOT NULL,
                template_id         TEXT REFERENCES notification_template(notification_template_id)
                                        ON DELETE SET NULL
            );" ++ groupsByMaster.text

def recipientsByMaster : Index where
  name := "idx_recipient_master"
  table := "recipient"
  columns := ["master_id"]
  rest := "

            CREATE TABLE notification_template_draft (
                notification_template_draft_id  TEXT PRIMARY KEY,
                master_id                       TEXT NOT NULL REFERENCES users(user_id) ON DELETE CASCADE,
                name                            TEXT NOT NULL,
                message_text                    TEXT
            );

            CREATE TABLE notification_template (
                notification_template_id    TEXT PRIMARY KEY,
                master_id                   TEXT NOT NULL REFERENCES users(user_id) ON DELETE CASCADE,
                name                        TEXT NOT NULL,
                message_text                TEXT
            );" ++ templatesByMaster.text

def sessionsByUser : Index where
  name := "idx_sessions_user"
  table := "sessions"
  columns := ["user_id"]
  rest := "

            CREATE TABLE recipient_draft (
                recipient_draft_id  TEXT PRIMARY KEY,
                master_id           TEXT NOT NULL REFERENCES users(user_id) ON DELETE CASCADE,
                name                TEXT NOT NULL,
                email               TEXT,
                phone_number        TEXT,
                telegram_id         INTEGER
            );

            CREATE TABLE recipient (
                recipient_id    TEXT PRIMARY KEY,
                master_id       TEXT NOT NULL REFERENCES users(user_id) ON DELETE CASCADE,
                name            TEXT NOT NULL,
                email           TEXT,
                phone_number    TEXT,
                telegram_id     INTEGER
            );" ++ recipientsByMaster.text

def notificationsByBatch : Index where
  name := "idx_notification_batch"
  table := "notification"
  columns := ["batch_id"]
  rest := "

            INSERT INTO schema_version (version) VALUES (2);
            "

end AlertService.Schema
