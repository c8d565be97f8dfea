import Pasteboard.Store.Basic
/-!
The tables of the database.

A schema lists the tables by name, each with the statement that defines it. The full-text index
brings a virtual table and the tables that hold its data.
-/

namespace Pasteboard

/-- A table of the database: its name and the statement that defines it. -/
structure TableInfo where
  name : String
  definition : String
  deriving DecidableEq, Repr

namespace Schema

/-- The keys. -/
def keys : TableInfo := ⟨Table.keys.name, "CREATE TABLE api_keys (
        id           INTEGER PRIMARY KEY,
        key          TEXT NOT NULL UNIQUE,
        label        TEXT,
        enabled      INTEGER NOT NULL DEFAULT 1,
        role         TEXT NOT NULL DEFAULT 'write',
        created_at   INTEGER NOT NULL,
        last_used_at INTEGER,
        last_ip      TEXT
    )"⟩

/-- Named settings; nothing is kept there yet. -/
def settings : TableInfo := ⟨"config", "CREATE TABLE config (
        name  TEXT PRIMARY KEY,
        value TEXT NOT NULL
    )"⟩

/-- The rules of a list. -/
def rules (list : RuleList) : TableInfo :=
  let name := (Table.rules list).name
  ⟨name, "CREATE TABLE " ++ name ++ " (
        id         INTEGER PRIMARY KEY,
        cidr       TEXT NOT NULL UNIQUE,
        enabled    INTEGER NOT NULL DEFAULT 1,
        created_at INTEGER NOT NULL
    )"⟩

/-- The slots. -/
def slots : TableInfo := ⟨Table.slots.name, "CREATE TABLE karing (
        id           INTEGER PRIMARY KEY,
        content      TEXT,
        is_file      INTEGER NOT NULL DEFAULT 0,
        filename     TEXT,
        mime         TEXT,
        content_blob BLOB,
        created_at   INTEGER,
        updated_at   INTEGER,
        revision     INTEGER NOT NULL DEFAULT 0,
        is_active    INTEGER NOT NULL DEFAULT 0,
        CHECK (is_active IN (0, 1)),
        CHECK (
            (is_active = 0 AND content IS NULL AND content_blob IS NULL
                AND filename IS NULL AND mime IS NULL)
            OR (is_active = 1 AND is_file = 0 AND content IS NOT NULL
                AND content_blob IS NULL AND filename IS NULL AND mime IS NULL)
            OR (is_active = 1 AND is_file = 1 AND content IS NULL
                AND content_blob IS NOT NULL AND filename IS NOT NULL AND mime IS NOT NULL)
        )
    )"⟩

/-- The log of overwrites. -/
def log : TableInfo := ⟨Table.log.name, "CREATE TABLE overwrite_log (
        id                  INTEGER PRIMARY KEY,
        replaced_rowid      INTEGER NOT NULL,
        at                  INTEGER NOT NULL,
        by_api_key_id       INTEGER,
        from_ip             TEXT,
        action              TEXT,
        fields              TEXT,
        text_excerpt_before TEXT,
        text_hash_before    TEXT,
        text_hash_after     TEXT,
        text_len_before     INTEGER,
        text_len_after      INTEGER,
        file_hash_before    TEXT,
        file_hash_after     TEXT,
        file_len_before     INTEGER,
        file_len_after      INTEGER,
        mime_before         TEXT,
        mime_after          TEXT,
        filename_before     TEXT,
        filename_after      TEXT,
        content_before      TEXT,
        text_patch          TEXT,
        FOREIGN KEY (by_api_key_id) REFERENCES api_keys(id)
            ON UPDATE CASCADE ON DELETE SET NULL
    )"⟩

/-- The full-text index and the tables of its data. -/
def index : List TableInfo :=
  [⟨"karing_fts", "CREATE VIRTUAL TABLE karing_fts
        USING fts5(content, content='karing', content_rowid='id')"⟩,
   ⟨"karing_fts_config",
     "CREATE TABLE 'karing_fts_config'(k PRIMARY KEY, v) WITHOUT ROWID"⟩,
   ⟨"karing_fts_data",
     "CREATE TABLE 'karing_fts_data'(id INTEGER PRIMARY KEY, block BLOB)"⟩,
   ⟨"karing_fts_docsize",
     "CREATE TABLE 'karing_fts_docsize'(id INTEGER PRIMARY KEY, sz BLOB)"⟩,
   ⟨"karing_fts_idx",
     "CREATE TABLE 'karing_fts_idx'(segid, term, pgno, PRIMARY KEY(segid, term)) WITHOUT ROWID"⟩]

/-- The tables in the order of their names. -/
def tables (withIndex : Bool) : List TableInfo :=
  [keys, settings, rules .allow, rules .deny, slots] ++ (if withIndex then index else []) ++ [log]

end Schema

end Pasteboard
