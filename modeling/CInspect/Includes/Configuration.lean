import CInspect.Text.Packed
/-!
The headers that describe the system configuration: option values for the configuration queries, limits of the system interface, and the option parser.

Each entry is the full path of a header and its text, reduced to the
declarations and macros that programs can see.
-/

namespace CInspect.Includes

/-- The headers that describe the system configuration. -/
def configurationHeaders : List (String × String) := Text.unpackEntries <|
  String.join [
    "/usr/include/x86_64-linux-gnu/gnu/stubs-64.h`~%!!#ifdef _LIBC`# error Applications may not define the macro~(!Xendif``#~'!D__stub___compat_bdflush~0!Dchflags~0!",
    ":f~7!;gtty~0!7revoke~0!9setlogin~1!;igretur~2!<tty`\x00~H'e~+'b !~&!od __~&!U__`# ~'!k <~*(B32.h>~('Q#if ~2!_ &&~+!9LP~:!t64~P!tILP32~8!ux~-%o~?'-bits/long-doub",
    "le~('4~/!!~*(3LDOUBLE_REDIRECTS_TO_FLOAT128_ABI 0~F%Dtimesiz~6%A#~)&S~%!Pword~&!P>`~N'H`#~(,j__TIMESIZE\t64`#else~6!B__WORDSIZE~M'm~*%u`~<%u!~4)C~)%T~(%I~*%u~4!",
    "A32~+(e~(!932_SIZE_ULONG\t\t0~6!GPTRDIFF_~%!I0~*/r~'0g~,,z~1!f~%'J64_COMPAT32\t1~-'kSYSCALL~*%z~=&A~1!t0~6(Afeatures-time~*2p~J*Y~/!>~*+L~0*wTIME_BITS`# if~+!3 ",
    "== 64`#  if !~)!U(_FILE_OFFSET~%!M) || ~1!9 !~(!f~'4n\"~*%*=64 is allowed only with~2!m=64\"`#  elif~+,/ == 32~%%,~)(5USE~*%164\t1~%!]~&18~'!g~-&X~&!g~.%&>~(%%~",
    "2&.32 is~%6z~&6Gible~'&0~.!g\"~.%H~%*2~'!wInvali~,(I value (can~&'.be 32 or 64-bit)`#~(!s~K.rconfnam~81Afn~%,|UNISTD_H~)9k\"Never us~(*d~*!o> directly;~*4]unist",
    "d.h> instead.\"~).4`enum`  @`    _PC_LINK_MAX,~(/(\t~,!9\t\t~-!2~)!ZMAX_CANON~.![~)!:~'!]~)!3~-!_INPUT~2!_~%!:~+!_~%!3~)!_NAME~2%|~(!9~'![~(!2~)!ZPATH~2!Z~(!9~'",
    "!Z~(!2~*!ZIPE_BUF~/!Z~'!9~(!Z~'!2~)!ZCHOWN_RESTRICTED~.!e~0!B\t~5!9~*&nO_TRUNC~/&n~'!9~(&n~'!2~)!ZVDISABLE~)!Z~-!9~'!Z~(!2~)!ZSYNC_IO~.%:~'!8~'!X~'!1~)!WA~5!XA~",
    ".!YA~0!ZPRIO~1!Y~'!8~(()~&!1~*%oOC~%+R~1(e~+!<~(%w~*!5~)!fFIL~%05BITS~.'<~,!=~&!g~,!5~)!hREC_INCR_XFER~%8i~.!n~2!D~&!t~2!;~-!zMAX~<!y~-!C~*!x~-!:~.!wIN~=!w~,!C~",
    "+!w~,!:~-!w~%!9ALIGN~2!t~*!?~*!q~*!7~**OLLOC~&<HMI~/!n~.!?~'*Z~-!7~++xM~12.~0!<~),(M~1242~(!9S~-!d~*!:~'!c~+!L  $;~13eSC_ARG~/1*~*!8\t\t~,!1~)!WCHILD~2!Y~)!:~'!",
    "[~)!3~*!_LK_TCK~/![~&!8~(!Y~&!1~)!WNGROUPS~2%=~+!<~'!b~+!5~)!fOPEN~2!c~(!9~'!_~(!2~)!ZSTREAM~2!]~*!;~'!a~*!4~)!cTZ~35g~-!;~'!c~*!4~)!cJOB_CONTROL~.!d~+!<~'!e~+!",
    "5~*&2AVED_IDS~/&1~(!:~(&0~(!3~)!_REAL~%<lSIGNAL~/!g~0!B\t~5!9~)!tPRIORITY_SCHEDULING~.!w~3!E\t~8!<~*(*IMER~/%l~&!7~('z~%!0~*,[SYNCHRONOUS~.5,~2!A\t~4!8~0&LIZED~",
    "1!p~.!?\t~3!7~*(t~'%-~5!o~/!A\t~4!8~)!qFSY~-:-~(!6~''0~%!/~)!QMAPPED~&6B~.!X~,!=\t~1!5~*!hEMLO~0/;~'!8~'%B~'!1~0!W_RANGE~5!_~&!>\t~2!6~,!kORY_PROTECTI~-B2~4!C\t",
    "~6!:~+!wSSAGE_PASS~1+m~/!A\t~4!8~*)IEMAPHOR~0'|~*!;~(.D~)!4~*!cHARED~(%zOBJECT~0!n~4!G~:!=~*,xIO_LISTIO~35b~-!?\t~3!7~-!n~5!g~+6K~3!W~%?(DELTA~6!e~.!D\t~7!;~)!z",
    "DELAY~%/Z~2!v~.!?\t~3!7~*)xQ~76<~+!<~(,HQ~26CMQ~&%s~4!f~(!<~*!f~(!5~)!fVERS~1,<~'!8~'![~'!1~*1LAGE~-?3\t~,!9~'!Y~(!2~1!H_~4!I~)5wTSI~3<-~)!:~'!]~)!3~,,w_NSEM~3:",
    "s~-!>\t~2!6~-!kVALUE~6!k~)!>\t~2!6~*!kIGQUE~5!j~+!=\t~1!5~.7*~3;0~**z~.!3```~)!cBC_BAS~3%L~+!<~'!g~+!5~,!fDIM~5!e~'!;~*!d~'!4~,!cSCAL~6%L~)!=\t~1!5~-!hTRING~6!i",
    "~)!>\t~2!6~*BZOLL_WEIGHT~3*3~0!B\t~5!9~)!tEQUIV_CLAS~3!s~/!A\t~4!8~*!qXPR_NEST~3!o~,!>\t~2!6~)!kLIN~3(/~(!9~'(o~(!2~+A&_DUP~3.+~)!;~(.,~)!4~+G;AR~&&H~6Cz~2!D\t~",
    "7!;~*,!2~61O2~/1Q2~11S2_C_BIND~0!]~&!9~)![~&!2~-!ZDEV~2!YDEV~+!XDEV~+!WFORT~4!Z~(!;~)!_~(!4~0!cRUN~5!cRUN~.!cRU~,&_SW~4%F~&!9~)!]~&!2~+!ZLOCALEDEF~0!_~)!<~)!c~)",
    "!5~*(gPII~/5UII\t~(5+II~,!L_XT~2!P_XTI~*!S_XT~.!WSOCKET~2!Z~&!;~+!_~&!4~-!cINTERN~4!e~(!=\t~1!5~-!hOS~3&+OS~,&+OS~+&+OL~/L&POL~(KwPOL~+KpELEC~/%k~&!7~)AGLEC~*%_",
    "U~&:aIO~/)_~*!;~'!]~*!4~)!cIOV_MAX =~8!q~,!J~'!n~'!1~5'y~'Ok~:((~'!E\t~8!<~6%%DGR~=%!~%!D\t~7!;~0)5_CO~0Dj~,!=\t~1!5~2!hL~9!hL~1!hL~3!hM~6!eM~.*k_~*&6T~((J~/;N~",
    "/(r~)!3~+;MTHREA~0Rq~'!8~(![~&!1~/!W_SAFE_FUN~%JDS~.*>~5!G\t~9!=~)%*GETGR_~&_Z~2&L~0!B\t~5!9~,!tPW~<!t~-!B\t~5!9~*9BOGIN~77w~.!?\t~3!7~*'gTY~7!l~,!=\t~1!5~0(QDE",
    "STRUCTOR_ITERA~.(X\t~A!N~B!r~0%?KEY~3=|~/!A\t~4!8~1*fTACK~-e7\t~4!B\t~5!9~0!t~'+v~9%m~+!D\t~7!;~0!zATTR~&%AADDR~5%%~.!G~:!=~:%*~2Ko~5!G~:!=~0%*~B]l~:!L~?!C~4%9_",
    "INHERIT~9%2~(!E\t~8!<~5%%~'WO~:%%~'!E\t~8!<~2%%OCESS~'V%~7%'~,!G~:!=~*3mN~'!<ORS_CONF~.31~0!B~'iG~/!9~5!tONLN~:!tONLN~2!tONL~+S%HYS~&R4~.!n~*!;~(7)~)!4~*W_V~8!e",
    "~,!=~'WQV~4!hTEXI~.Jg~/!;~(Y.~)!4~+U6~/L=~-!9~)Ti~'L0~)![X~%WJ~0I'~2!>~&!g~-!6~/!kXCU~<!o~+!C~,!s~+!:~/!wUNIX~4!pUNI~(&K~*!4~/!cCRYPT~4!d~%!<~-!e~%!5~/!fENH_I18",
    "~5&D~(!?~,!k~(!7~/!nSHM~4!iSHM~-%RSHM~,MgCHAR_TER~/!c~+!<~*LQ~(!5~-M3~5(Y~+!<~+M;~2NUUPE~0!_UP~([Y~%!/~0*kXPG2~5)tPG2~-&gXPG2~2!c3~7!c3~0!c3~2!c4~7!c4~0!c4`~-Rx",
    "_B~04]~(!9~)x6~&!2~.!Z~5SM~-xpAR~1T8~2;>~(!9~-!Z~+;/IN~3Vz~'!8~(IxN~.00~%!3~0%7~'!8~,!W~+%5LONG~2'/~(!9~(WK~'!2~)!ZWORD~2!Z~(!9~'!Z~(!2~*gYB_L~5hC~)!;~(gW~)!4~*",
    "5qZER~/sN~%!6~(|xZER~+t0~6EL~)!:~(O:~1E>S~6)dS~/)eS~1)fS~6)gS~/)hS~1)iSHR~3)j~(!9~(![~'!2~/!Z~1%=~'!9~-!Z~+%;U~6&ZU~/&ZU~1&ZU~5+gU~.+hU~0+iU~%*f~2![~(!:~(!]~(!3",
    "~*!_~6'<U~/'=~)!3~+=AL_ARG~1!a~)!:~(*Z~(!3~,!_LAN~5!a~'!;~*!b~'!4~,!cMS~5!b~&!:~*!a~&!3~,!_N~4![N~-!YN~/!WSET~4!Y~&!:~*![~&!3~,!_TEX~5!a~'!;~*!b~'!4~+5uBS5^'%MN",
    "OFF3~05|~/!B~'4Y~/!9~7!tBIG~<!uBIG~4!vBIG~.!wLP64_OFF64~3!u~*!A~+!s~*!8~0!qBIG~:%m~,!C~-!u~*!:~09ZLEGACY~487~&!=~,88~&!5~/!h^(%.H~4!j~(!?~,!l~(!7~7!n~1Wh~;!H\t~",
    ":!>~*&fADVISORY_INFO~/EW~,!>~'EY~,!6~*qiARRI^,%/n~-!9~(s6~'!2~+!ZS~/'=BAS~(>CBAS~*'*C~%/>_SUPPOR~/Cc~.!?~';&~-!7~7!n_R~<!p_R~4!r_~*R+CLOCK~'f0~1BJ~/!A~'!r~.!8~*",
    "!qPU~2*M~'!8~(=P~&!1~0O3~5!a~.!?~-P+~0!nDEVICE^,%2a~.!:~'%N~)!3~0!_SPECIFIC~5!f~(!A~-!k~(!8~8!q~0(l~1!C~5!u~+(nFD_MGM~/*P~'!8~'&K~'!1~*!WI~0-(FIF~(&|FI~+,oPI~0G",
    "VPI~)GUPIP~*(-FILE~%WjIBUT~0PR~/!A~(%8~-!8~.!qLOCK~,X2~1!=~+!k~'!5~.!hSYSTEM~3!g~&!<\t~+!g~&!5~*CDONOTONI~',D~.!j~/!A~'CM~.!8~*!qULTI~(Vb~/!o~,!>~'!m~,!6~*A/ING",
    "LE~6!l~.!?~'A:~-!7~*:<ETWOR~2(&~*!;~(:<~)!4^+%!eADER_WRITER~%(B~/%X~3!E^(%!v~1!<~*&UPIN~4!t~*!;~(Ch~)!4~+%eGEXP~0%UGEXP^)%&DGEXP~.!T~6Pn~-!>~+!d~1PqSHE~+v5~*!6~",
    ")EfE~,v7^/%E>~,!8~(!U^/%E-SPAW~/%o~%!6~)'-AW~+%_PORADIC_SERVE~/0z~/!A~(!g~-!8~1ip~<!x~6!H\t~:!>~*%|~%.6_DATA~29<~/!A~'%|~.!8~8!q~03r~1!C~5!u~+3rTIMEOUT~0sG~'!9^",
    "+%4BOU~+v4TYP^:%?Z~9!F\t~8!<~+JDER_^&%Oq~.!v~+!<~)JH~)!5~4!f~0'A~-!>~1!i~+'82_PB~/%M~%!6~)YZPBS~.!Q_ACCOUNT~114~0!B~+!i~+!9~/!tLOCATE~4!p~&!=~,!l~&!5~/!h^'%FS~4",
    "!i~'!>~,!j~'!6~/!kTRA~06-~+!<~,'2~&!5~++zMLOOP~2gD~+!<~(/R~*!5~*!fTREAM~00g~&!8^-%Ty~0(WCHECKPOINT~4&1~*!B~,&5~*!9~*FhV6~:M5~.!?~&!q~.!7~5!n~1K=~/!A~2!p~,M+V6~9",
    "M)~-!>~)!m~3M%~%!9~8L|~/!A~+!o~4LwHOST^2%!T~2!>~&!n~-!6~*0tRAC~0EbRAC~(AC~%!/~.!Q_EVENT_FILT~14|~1!D~+!m~-!;~/!z~0vN~2!>~,!p~1vB~%!9LOG~4!gLOG~,&H_LO~+'mLEVEL1_",
    "ICACHE^0%hH~5!D~'dB~1!;~7!zASSOC~<!|~%!E~4%!~%!<~7%%LINE~A&(~(!H\t~:!>~0%-D~?'.D~7'.D~:'.D~A'.D~8'.D~;'.D~D'.D~:'.D~<'.2_~='-~,!C~+&+~,!:~6!w~8'*~-!D~3!y~3'(~(!",
    ">~;''~0!G\t~9!=~.%*3~>'%3~6'%3~9'%3~?'%3~7'%3~:'%3~C'%3~9'%3~='%4~>'%4~6'%4~9'%4~?'%4~7'%4~:'%4~C'%4~9'%~0!=^+%<-IPV6^'%Bm~22l + 50~.%9IPV6~(tDPV6~*L-AW^'%G-~0N",
    "?~*!<~(Lk~*!5~+<77~;<77~3<77~6<77~<<77~4<77~7<77~:<77~2<77~5<77~<<77~4<77~7<7SS_REPL~3Bw~*!<~)v'~)!5`~5;[~6=*~4!F\t~8!<~/%'~<!y~.>)~.!7~/!nSYS~8!mS^-%=<~,!6~/!k",
    "~%JQ~&&(~7!r~.!F\t~8!<~0lc~5Fj~-!>~,kt~(Fu~0R;ROBUST^6%9s~?!L\t~>!C~<%9^0%:/~?!L\t~>!C~*&QMINSIGSTKSZ~.tP~+!<~'+q~+!5~+,Z~(!5~-|w~.!_~)!H^5&)|CS_PATH~+&V~'!5\t\t",
    "~(!-`~)!NV6_WIDTH^+&5d_ENVS~.!e~8!J\t~<!A~.%POSIX~X!o~)&(GNU_LIB^4%35~3!B\t~4!8~0!sP~')T~<!y~/!H\t~:!>~+(+5~F(+5~<'75~K(+~V!o~*&(7~F&(7~<%47~K&(~V!o~)&(LFS_CFLA",
    "GS = 1000~.%y~*!C\t~.!2~-!hLD~%!7~2!b~'!<\t~/!3~.!dIB~4!aIBS\t\t~,!1~/!YNT~8%D~(!>\t~1!5~,!j64~'&F~1!i~)!=\t~0!4~/!g~8&v~*!>\t~1!5~0!j~4'!~'!;\t~.!2~1!a~8')~,!A",
    "\t~3!7~**(^0%+P~+*51~0*5~8!P~;!?~:%7~5'e~8!J~=!A~;%3~1(.~5!G~:!=~<%*~5(P~:!L~?!C~7%9BIG~5,'~8!J~=!A~;%3~D(e~+!K~>!B~<%6~?(h~(!H~;!>~=%-~D(k~-!M~A!D~.%<~*H%~:(k~",
    "1!H~;!>~9%-~:(e~2!I~<!?~:%0~6(]~/!F~9!<~;%'~:(V~4!K~>!B~0%6~*Kc~<(T~1!J~=!A~;%3~<(Z~2!K~>!B~<%6~8(c~/!H~;!>~=%-~<(i~4!M~A!D~*6|~)E&~263,~6EP~77!~;!D~>%<~5(z~<!N",
    "~B!E~?%?~1)+~9!K~>!B~A%6~5)4~>!P~D!G~;%F~8.0~<!N~B!E~?%?~H)=~0.A~=!F~A%C~D)A~-.M~:!C~B%9~H)D~2.Y~?!H~2%I~?8,~:!L~?!C~=%9~>)=~78<~;!D~>%<~:)7~48I~8!A~?%3~>)1~98U",
    "~=!F~4%C~?8_~<!N~B!E~?%?~A)5~78p~=!F~A%C~<);~49!~:!C~B%9~A)B~990~?!H~1947~I947~?947~D947~J947~A947~E947~G947~=947~B947~L947~C947~G947~J947~A947~E947~K947~B947~F",
    "947~H947~>947~C947~M947~D947~H947~H947~>947~C947~I947~?947~D947~F947~<947~A947~K947~B947~F947~J947~A947~E947~K947~B947~F947~H947~>947~C947~M947~D947~B94V6_ENV~1",
    "sKENV\t\t\t~*!0~,n+ENV~0mp~+!S~&!D~%uN^E'55environments^4'59^B'58~'%. this file^)'54.  Us^4'51^*'50^<'Dc~5%]^+'>c^''<a~.!F^)':x~5(U\t-1~2!G6~;!G~1Th\t-1~8%6~(/3",
    "\t~7%3~5!D~/Ze\t1`^('Fo~5%5~,5R~6%7~,!F ~1%9~/!g`# ~()b^*'Dw`# ~;%I32~%%H~;%I~0!F~0im~%!B~'*+~.)<^1'RV~2Bc\t\"-m32\"~7!H~(qI~(!I^N'O%~2!y~*3=\t\"-mx~%!z~7!K~+%J",
    "~&!L^0'Gy~7%!32 -D_LARGE^&%g(OURCE -D^8'E'~B%O~&%N~%'u~*'M~1:z\t\"-m~%!x~4!G~+!u64\"~F1&getopt_cor^7'Qy~)1'GETOPT_CORE_H~*%P~-!: 1~'!Z__BEGIN_DECLS~(!rextern ch",
    "ar *optarg;~.%<~'!Fint optind;~3!:err;~2!9opt;~4&;~7%.~&&w (int ___argc,~'%mconst *~&!9v, ~&!3~&!?__shortopts)~%5n   __THROW __nonnull ((2, 3));``__END~('.^L'H,",
    "~'(oext~G(nEXT~3(m~%!9~((l~5(k~/!!struc~&(Qon`@` ~-'%name;``` ~%'nhas_~%)C~&!2*fla~)!0val;`$~%(h~(%gno_argument^,'Swrequired~*!A1~)!?~&%Wal~*!?2~3)E_long~5)J__~",
    "'!Fargv_~/)X`\t\t\t~7)[,`\t\t~')_~'''~-'? *_~%%D~%!O~&&|~&!4ind~F*B~6&>_only~W&D~+&%~=&I~|&N~f,oposix~G,q~&8M~2,s~'!; 1^0'f_~(?I^.']cSTDIO_H`#~5?_~.%j^+'Qvuse ~",
    "(?c^3'Qp~/?c~-4B>~1.b~.9'USE~&&A2~.&%~*!<_IMPLICITLY \\~%(n~2!MGNU~.!9~''GH~&'x ^('_z^('fS~,+h~*!9_NTH (~&&:,~E3a`\t~'+b~83i~(,+_~&((~',V);^('XN~-%W~,!G~I%N~;%L",
    "`~>,A~*?;~'%B~.%Q^0'YX~Z,s~%%!1_lim~6,q~+,u\t~%=*~&)y1_LIM~*,x~3!>~%Ca~>H9#~.CD^/'7(2~6!FMAX\t\t1~*!?\t~(!?^('JN4096^+'to~%+YXOPEN2K~1F3^*'JN25~1A[~0!G6~)(A~0%k",
    "^/'6m32~3&Z^.%k&255~2&>^*'ND8~3!A^.&m39~2!F^*']Z~&%-~4!D^&']A~-%N~(%t^,'8C8~5!C^)'7z32~2%-~)%m\t14~I(S^,'Mf8~7(T~,!H0~+(V~E%/~)&L20~7%-~)!F1~*)a~.59~,%0 || ~12i",
    "~3MdFD_SET^&%[U~.%7~1*r~(!E^*'bw256~3!C^)'b_51~4+5^+'0F~5)_^*':q~3)[^.':N~-%P~,!G^*':,32767~3!I^,'9f~4*P^*&S&~/!i~)!E^*'R]~4%|^+'Wv~.,j~,!F^(%|-~3!h~//*~/%M^-&v",
    "_9~I+;^+'T*6~7+<~+!G3~[+=~0%%QLIMIT~&3D~1!AHIWAT\t~0*m~3!M^+',J1~:2pCLOCKRES_MIN\t20~&!!`^2'v:local~&74>~+6x~))|~(<2~1Z9 ||^8'z<~+9K~**o^)&U1^*'ro~1!H^(&V9~09n~",
    ",8j~+1=~*'C~01z~')0~P:A2~<:A~3:>2~::>2~*:>~0,92^.'Cl99~6!F^)'CM2048~6!G^+'C1~8!m^,'Bj1~(*-~/!K^1'BG2~4!J^/'A,~3.n2^+'?i~'&0~1!F~+3-~6932^4'?.14~/(Y~+'m~)!g~-()~",
    "3(>^+(10~(!k~'(7~,!j~)(K~2(b~3!h~)(V~,!j~+(n~4),~4!n~))%~-!o~+);~5)S~0!q~0)I~)!t~2)e55~0!d~-)c~)!a~/)y~5*8~0!q~(*1~)!l~**C~0*U~1&=~1*'~*&?~2*C~%+<~1;6~*+: (0x7f",
    "ff)~S0>_opt^<('R~,/w_~&Lt~309~&!=~4FL^,'j5~3!C^*'io~'Z5~0=M^3',X200809L~3!t^/'ei~9!M^&'eO~9!C^-'e9~:!J^''d|~A!E^''dc~<!K^/'d>~9!O^1(&Z~32v^*(%X'\\0'~3F_^((&Y~+(",
    "e ^0&bk~;!?^)&b4~-)N^*'!i1~3>|~'!V~1&T~*CrENTRANT^*'=&~&YX1~6!r^0'=p~9%(^;'3R~A!X^/'5=~K!SADDR~F%e^)%v-~*!Q~<!R~'*M~*!R~4CP8~2A:^;%wS~+%y~C!Y~(%P-1~9B+^+'k*~;)o",
    "^/'u-~9!N^0's-~(!M~4!K_IO~%Dj~)!?LFS~1!h1~1%2^/'sH~3%[^&%i6~3!q~.%:~)se\t~+ic~'!d~*!?~1!>~%bu\t~4-g^6'n2~9'T^(&fy0~9*s~;!F^'&XP1~5),^1&ZG~9%T^&&W|1~6L3OU~<&:^+&",
    "Ze~;!HAWN~;.4^&'zI~9!D^)&ny~;4p^.'t9~C/L^-'=O~9!S^0&dU0~7Kt^+&mo~:-D^-&r*~9!KIPV6~;.b^+&5_~8!I^,'5j~;(j^.&[*-~95?~2!M~2()RACE~4!j^2&KC~8!I~(2g~8!DLOG~6%K^4&Yy-1",
    "~)AB"]

end CInspect.Includes
